import GuestLaunch.Proofs.Outcome.Classification
import GuestLaunch.Proofs.Placement.SlotOwnership
import Mathlib.Data.List.Basic

/-!
Automatic placement in closed form. Where no device that may be placed gives an address, the slots
are dealt out in one order, from the top of the bus down: the k-th device that takes a slot gets the
k-th of those that the root ports and bridges leave open.
-/

namespace GuestLaunch

namespace Config

/-- None of the devices that may be placed gives an address. -/
def Unaddressed (config : Config) : Prop :=
  ∀ device ∈ config.devices, ∀ address ∈ device.givenAddress?, address = ""

/-- The slots 30 down to 4, without those that root ports and bridges claim. -/
def openSlots (config : Config) : List Nat :=
  (List.range' 4 27).reverse.filter fun slot => slot ∉ config.rootSlots

/-- The devices that take a slot without an address, in the order in which they are rendered: the
controllers of IDE and USB, and on PCI those of SCSI, the virtio disks that are more than a drive,
and the entropy sources.
-/
def slotTakers (config : Config) (host : Host) : List Device :=
  let onPci (choice : Option Transport) : Bool := host.resolveTransport choice == .pci
  (config.scsiControllers.filter fun controller => onPci controller.transport).map .scsi
    ++ config.ideControllers.map .ide
    ++ config.usbControllers.map .usb
    ++ (config.disks.filter fun disk =>
        !disk.driveOnly && disk.isVirtio && onPci disk.transport).map .disk
    ++ (config.entropySources.filter fun source => onPci source.transport).map .entropy

end Config

/-- How an assembly that gives an invocation deals out the open slots. -/
structure DealsOpenSlots (settings : BuildSettings) (config : Config) (invocation : Invocation)
    : Prop where
  /-- The k-th device that takes a slot gets the k-th open one, and no other device gets any. -/
  placements
    : (deviceSteps settings config).filterMap RenderStep.placement?
      = (config.slotTakers (settings.host config)).zip config.openSlots
  /-- The slot of a device is rendered in its only device option. -/
  rendered
    : ∀ step ∈ deviceSteps settings config, ∀ slot,
        step.slot? = some slot → RendersSlot step.options slot
  /-- The options of the steps stand in the command line, one after the other. -/
  options
    : ∃ before after,
        invocation.options
          = before ++ (deviceSteps settings config).flatMap RenderStep.options ++ after
  /-- So do their arguments. -/
  arguments
    : ∃ before after,
        invocation.arguments
          = before
            ++ (deviceSteps settings config).flatMap (fun step => argumentsOf step.options)
            ++ after

/-- What becomes of a configuration whose devices are all placed automatically. -/
structure PlacedAutomatically (settings : BuildSettings) (config : Config) : Prop where
  succeeds
    : (∃ invocation, (build settings config).outcome = .ok invocation)
      ↔ (config.slotTakers (settings.host config)).length ≤ config.openSlots.length
  deals
    : ∀ invocation,
        (build settings config).outcome = .ok invocation
        → DealsOpenSlots settings config invocation
  exhausted
    : (build settings config).outcome = .error (.allocation (.exhausted 4 30))
      ↔ config.openSlots.length < (config.slotTakers (settings.host config)).length

-----------------------------------------------------------------------------------------
-- The open slots of a bus
-----------------------------------------------------------------------------------------

namespace RootBus
variable {bus after : RootBus} {address : String} {slot : Nat} {cause : AllocationError}

/-- The automatic slots that are free, in the order in which they are given out. -/
def openSlots (bus : RootBus) : List Nat := automaticSlots.filter fun slot => !bus.isUsed slot

/-- An automatic slot is the first open one. -/
theorem allocateAutomatic_eq (bus : RootBus)
    : bus.allocateAutomatic
      = match bus.openSlots with
        | slot :: _ => .ok (slot, bus.occupy slot)
        | [] => .error (.exhausted (lastReservedSlot + 1) (slotCount - 1)) := by
  rw [allocateAutomatic, ← List.head?_filter, openSlots]
  cases automaticSlots.filter fun slot => !bus.isUsed slot <;> rfl

/-- Once the first open slot is occupied, the others are open. -/
theorem openSlots_occupy {rest : List Nat} (first : bus.openSlots = slot :: rest)
    : (bus.occupy slot).openSlots = rest := by
  have distinct : bus.openSlots.Nodup := by
    have listed : automaticSlots.Nodup := by decide
    exact listed.filter _
  have inside : slot < slotCount := by
    have member : slot ∈ bus.openSlots := by
      rw [first]
      exact List.mem_cons_self
    exact ((mem_automaticSlots slot).mp (List.mem_filter.mp member).1).2
  have others : (bus.occupy slot).openSlots = bus.openSlots.filter (· != slot) := by
    rw [openSlots, openSlots, List.filter_filter]
    refine List.filter_congr fun own _ => ?_
    rw [isUsed_occupy _ _ _ inside, Bool.not_or, Bool.beq_comm]
    rfl
  rw [others, ← distinct.erase_eq_filter, first, List.erase_cons_head]

/-- Without an address that asks for a slot, an allocation takes the first open one. -/
theorem openSlots_of_allocate (unasked : requestedSlot? address = none)
    (h : bus.allocate address = .ok (slot, after))
    : bus.openSlots = slot :: after.openSlots := by
  simp only [allocate, unasked] at h
  rw [allocateAutomatic_eq] at h
  cases slots : bus.openSlots with
  | nil =>
      rw [slots] at h
      cases h
  | cons first rest =>
      rw [slots] at h
      cases h
      rw [openSlots_occupy slots]

/-- Without an address that asks for a slot, an allocation fails only where no slot is open. -/
theorem openSlots_of_error (unasked : requestedSlot? address = none)
    (h : bus.allocate address = .error cause)
    : bus.openSlots = [] ∧ cause = .exhausted 4 30 := by
  simp only [allocate, unasked] at h
  rw [allocateAutomatic_eq] at h
  cases slots : bus.openSlots with
  | nil =>
      rw [slots] at h
      exact ⟨rfl, (Except.error.inj h).symm⟩
  | cons first rest =>
      rw [slots] at h
      cases h

end RootBus

-----------------------------------------------------------------------------------------
-- Runs that deal out open slots
-----------------------------------------------------------------------------------------

/-- Nothing is claimed among requests, and no slot is asked for by its number. -/
structure Undemanding (requests : List Request) : Prop where
  unclaimed : claimedSlots requests = []
  unasked : ∀ address ∈ placedAddresses requests, RootBus.requestedSlot? address = none

/-- What is left of undemanding requests behind the first is undemanding. -/
theorem Undemanding.rest {request : Request} {requests : List Request}
    (h : Undemanding (request :: requests))
    : Undemanding requests := by
  have claimed : request.claimed?.toList ++ claimedSlots requests = [] := by
    rw [← h.unclaimed, claimedSlots, claimedSlots]
    cases request <;> rfl
  refine ⟨(List.append_eq_nil_iff.mp claimed).2, fun address member => h.unasked address ?_⟩
  obtain ⟨own, listed, placed⟩ := List.mem_filterMap.mp member
  exact List.mem_filterMap.mpr ⟨own, List.mem_cons_of_mem _ listed, placed⟩

namespace Granted
variable {state final : RunState} {requests : List Request} {grants : List Grant}

/-- Undemanding requests are granted the first open slots in their order, by induction on the run:
each request for a slot takes the first one that is still open.
-/
theorem openSlots_eq_append (h : Granted state requests grants final)
    (undemanding : Undemanding requests)
    : state.bus.openSlots = grantedSlots grants ++ final.bus.openSlots := by
  induction h with
  | nil => rfl
  | cons first _ ih =>
      have behind := ih undemanding.rest
      cases Request.answered_of_ok first with
      | claim inside => cases undemanding.unclaimed
      | place allocated =>
          have unasked := undemanding.unasked _ List.mem_cons_self
          rw [RootBus.openSlots_of_allocate unasked allocated]
          exact congrArg (_ :: ·) behind
      | reserve | number | inherit => exact behind

end Granted

/-- What follows the claims of a configuration is refused for want of slots only, if it is
undemanding and does not ask for an index behind the greatest one: there are more addresses than
open slots.
-/
theorem Refused.crowded {policy : CollisionPolicy} {state final : RunState}
    {requests : List Request} {cause : AllocationError}
    (h : Refused state requests cause final) (undemanding : Undemanding requests)
    (late : LateCause policy cause) (counted : cause ≠ .noNextIndex IndexRegistry.bootCategory)
    : cause = .exhausted 4 30
      ∧ state.bus.openSlots.length < (placedAddresses requests).length := by
  obtain ⟨before, request, after, grants, rfl, granted, answer⟩ := h.exists_answer
  have first : Undemanding before := by
    constructor
    case unclaimed =>
      have unclaimed := undemanding.unclaimed
      rw [claimedSlots_append] at unclaimed
      exact (List.append_eq_nil_iff.mp unclaimed).1
    case unasked =>
      intro address member
      refine undemanding.unasked address ?_
      rw [placedAddresses_append]
      exact List.mem_append_left _ member
  obtain ⟨address, rfl⟩ : ∃ address, request = .place address := by
    cases Request.refusal_of_answer answer with
    | outOfRange | indexTaken => cases late
    | exhausted | collision => exact ⟨_, rfl⟩
    | noNextIndex => exact absurd rfl counted
  have own : placedAddresses (.place address :: after) = address :: placedAddresses after := rfl
  have unasked : RootBus.requestedSlot? address = none := by
    refine undemanding.unasked address ?_
    rw [placedAddresses_append, own]
    exact List.mem_append_right _ List.mem_cons_self
  -- The requests before this one have taken all open slots, one each.
  obtain ⟨full, rfl⟩ :=
    RootBus.openSlots_of_error unasked (Request.allocate_of_refused answer)
  refine ⟨rfl, ?_⟩
  rw [granted.openSlots_eq_append first, full, List.append_nil, granted.length_grantedSlots,
    placedAddresses_append, own, List.length_append, List.length_cons]
  omega

-----------------------------------------------------------------------------------------
-- Configurations without addresses
-----------------------------------------------------------------------------------------

/-- The address with which a device of a configuration asks for a slot. -/
def Device.askedAddress? (device : Device) (host : Host) : Option String :=
  device.slotAddress? (host.resolveTransport device.transport?)

namespace Config
variable {config : Config}

/-- A configuration asks for slots with the addresses of its devices, in their order. -/
theorem placedAddresses_laterRequests (config : Config) (host : Host)
    : placedAddresses (config.laterRequests host)
      = config.devices.filterMap fun device => device.askedAddress? host := by
  have claiming : config.claimingDevices.filterMap (fun device => device.askedAddress? host)
      = [] :=
    List.filterMap_eq_nil_iff.mpr fun _ member => slotAddress?_of_mem_claimingDevices member _
  have asked (device : Device)
      : placedAddresses (PlannedDevice.of host device).requests
        = (device.askedAddress? host).toList :=
    device.placedAddresses_requests _
  rw [laterRequests, placedAddresses_append, (slots_incoming _).2, List.append_nil, devices_eq,
    List.filterMap_append, claiming, List.nil_append, placedAddresses, List.filterMap_flatMap,
    List.flatMap_map, List.filterMap_eq_flatMap_toList]
  exact List.flatMap_congr fun device _ => asked device

/-- Where no address is given, devices ask for slots with the empty one. -/
theorem Unaddressed.address_eq (h : config.Unaddressed) {device : Device}
    (member : device ∈ config.devices) {host : Host} {address : String}
    (asks : device.askedAddress? host = some address)
    : address = "" :=
  h device member address (Device.givenAddress?_of_slotAddress? asks)

/-- Where no address is given, the devices that ask for a slot are those that take one. -/
theorem Unaddressed.slotTakers_eq (h : config.Unaddressed) (host : Host)
    : config.slotTakers host
      = config.devices.filter fun device => (device.askedAddress? host).isSome := by
  have unplaced : (config.netDevices.map Device.net).filter
      (fun device => (device.askedAddress? host).isSome) = [] := by
    refine List.filter_eq_nil_iff.mpr fun device member => ?_
    obtain ⟨card, listed, rfl⟩ := List.mem_map.mp member
    have empty : card.address = "" :=
      h (.net card) (List.mem_flatMap.mpr ⟨.net, by decide, member⟩) card.address rfl
    simp [Device.askedAddress?, Device.slotAddress?, NetDevice.slotAddress?, empty]
  have on_pci (choice : Option Transport) (address : String)
      : (if host.resolveTransport choice = .pci then some address else none).isSome
        = (host.resolveTransport choice == .pci) := by
    by_cases pci : host.resolveTransport choice = .pci <;> simp [pci]
  have scsi (controller : ScsiController)
      : ((Device.scsi controller).askedAddress? host).isSome
        = (host.resolveTransport controller.transport == .pci) :=
    on_pci controller.transport controller.address
  have disk (disk : Disk)
      : ((Device.disk disk).askedAddress? host).isSome
        = (!disk.driveOnly && disk.isVirtio && host.resolveTransport disk.transport == .pci) :=
    Bool.eq_iff_iff.mpr Option.isSome_ite
  have entropy (source : EntropySource)
      : ((Device.entropy source).askedAddress? host).isSome
        = (host.resolveTransport source.transport == .pci) :=
    on_pci source.transport source.address
  simp only [devices, Category.all, Category.devices, List.flatMap_cons, List.flatMap_nil,
    List.filter_append, unplaced, List.filter_map, Function.comp_def, scsi, disk, entropy]
  simp [slotTakers, Device.askedAddress?, Device.slotAddress?]

end Config

namespace Config
variable {config : Config} {host : Host}

theorem Unaddressed.undemanding (h : config.Unaddressed) (host : Host)
    : Undemanding (config.laterRequests host) := by
  constructor
  case unclaimed => exact config.claimedSlots_laterRequests host
  case unasked =>
    intro address member
    rw [placedAddresses_laterRequests] at member
    obtain ⟨device, listed, asks⟩ := List.mem_filterMap.mp member
    rw [h.address_eq listed asks]
    decide

theorem Unaddressed.length_placedAddresses (h : config.Unaddressed) (host : Host)
    : (placedAddresses (config.laterRequests host)).length
      = (config.slotTakers host).length := by
  rw [placedAddresses_laterRequests, h.slotTakers_eq, List.length_filterMap_eq_countP,
    List.countP_eq_length_filter]

/-- Once all slots are claimed, those that are open on the bus are those that the configuration
leaves open: boot indices take no slots.
-/
theorem openSlots_claimed {policy : CollisionPolicy} {reserved claimed : RunState}
    {reservations recorded : List Grant}
    (reserving
      : Granted (RunState.initial policy) config.reserveRequests reservations reserved)
    (claiming : Granted reserved (config.rootSlots.map Request.claim) recorded claimed)
    : claimed.bus.openSlots = config.openSlots := by
  obtain ⟨unclaimed, unplaced⟩ := config.slots_reserveRequests
  have fresh : reserved.bus = (RunState.initial policy).bus := reserving.bus_eq unclaimed unplaced
  have used (slot : Nat) : claimed.bus.isUsed slot = true ↔ slot ∈ config.rootSlots := by
    have free : (RunState.initial policy).bus.isUsed slot = false :=
      RootBus.isUsed_empty policy slot
    have none := claiming.slots_eq_nil (slots_claims config.rootSlots).2
    rw [claiming.isUsed_iff, fresh, free, none, (slots_claims config.rootSlots).1]
    simp
  have listed : RootBus.automaticSlots = (List.range' 4 27).reverse := by decide
  rw [RootBus.openSlots, openSlots, listed]
  refine List.filter_congr fun slot _ => ?_
  rw [Bool.eq_iff_iff, Bool.not_eq_true', ← Bool.not_eq_true, used, decide_eq_true_eq]

/-- A configuration without addresses, with distinct boot indices and with all claims on the bus is
refused nothing but a slot, as long as it does not ask for an index behind the greatest one: more
devices take a slot than there are open ones.
-/
theorem Unaddressed.crowded_of_refused (h : config.Unaddressed) {policy : CollisionPolicy}
    {cause : AllocationError} {final : RunState}
    (distinct : config.explicitBootIndices.Nodup)
    (inside : ∀ slot ∈ config.rootSlots, slot < slotCount)
    (counted : cause ≠ .noNextIndex IndexRegistry.bootCategory)
    (refused : Refused (RunState.initial policy) (config.requests host) cause final)
    : cause = .exhausted 4 30
      ∧ config.openSlots.length < (config.slotTakers host).length := by
  rcases refused.exists_phase with repeated | ⟨reservations, reserved, reserving, behind⟩
  · obtain ⟨index, _, first⟩ := refused_reserves_iff.mp ⟨final, repeated⟩
    exact absurd distinct ((exists_firstRepeat_iff _).mp ⟨index, first⟩)
  · rcases behind with outside | ⟨recorded, claimed, claiming, late⟩
    · obtain ⟨slot, _, first⟩ := refused_claims_iff.mp ⟨final, outside⟩
      obtain ⟨far, member, beyond⟩ := (exists_firstBeyond_iff _).mp ⟨slot, first⟩
      exact absurd (inside far member) (Nat.not_lt.mpr beyond)
    · obtain ⟨rfl, crowded⟩ := late.crowded (h.undemanding host) (lateCause_of_refused late) counted
      rw [openSlots_claimed reserving claiming, h.length_placedAddresses] at crowded
      exact ⟨rfl, crowded⟩

end Config

-----------------------------------------------------------------------------------------
-- Assemblies
-----------------------------------------------------------------------------------------

/-- The values that a function gives are paired with what stands beside them, by induction on the
list.
-/
theorem filterMap_map_pair {α β γ : Type} (value? : α → Option β) (beside : α → γ) (items : List α)
    : items.filterMap (fun item => (value? item).map fun value => (beside item, value))
      = ((items.filter fun item => (value? item).isSome).map beside).zip
          (items.filterMap value?) := by
  induction items with
  | nil => rfl
  | cons item rest ih => cases given : value? item <;> simp [given, ih]

namespace GrantedRun
variable {settings : BuildSettings} {config : Config}

/-- The transport of a step is the one that its device chooses, and else the default one. -/
theorem transport_eq (run : GrantedRun settings config) {step : RenderStep}
    (member : step ∈ deviceSteps settings config)
    : step.planned.transport
      = (settings.host config).resolveTransport step.planned.device.transport? := by
  have listed : step.planned ∈ config.plan (settings.host config) := by
    rw [← run.steps_planned]
    exact List.mem_map_of_mem member
  obtain ⟨device, _, same⟩ := List.mem_map.mp listed
  rw [← same]
  rfl

/-- The steps that are allocated a slot are those of the devices that take one. -/
theorem slotTakers_eq (run : GrantedRun settings config) (unaddressed : config.Unaddressed)
    : ((deviceSteps settings config).filter fun step => step.slot?.isSome).map
          (fun step => step.planned.device)
      = config.slotTakers (settings.host config) := by
  have asks : ∀ step ∈ deviceSteps settings config,
      step.slot?.isSome
        = (step.planned.device.askedAddress? (settings.host config)).isSome := by
    intro step member
    obtain ⟨own, granted, _⟩ := run.step_granted member
    rw [Device.askedAddress?, ← run.transport_eq member]
    cases asked : step.planned.device.slotAddress? step.planned.transport with
    | none =>
        rw [RenderStep.slot?, asked]
        rfl
    | some address =>
        obtain ⟨slot, _, _, given⟩ := step.allocate_of_granted granted asked
        rw [given]
        rfl
  rw [List.filter_congr asks, unaddressed.slotTakers_eq, ← run.steps_devices, List.filter_map]
  rfl

/-- The slots of the steps are the first open ones. -/
theorem exists_openSlots_eq (run : GrantedRun settings config)
    (unaddressed : config.Unaddressed)
    : ∃ rest,
        config.openSlots = (deviceSteps settings config).filterMap RenderStep.slot? ++ rest := by
  obtain ⟨_, _, _, _, _, split, reserving, claiming, placing⟩ := run.granted.exists_phases
  have none_reserving := reserving.slots_eq_nil config.slots_reserveRequests.2
  have none_claiming := claiming.slots_eq_nil (Config.slots_claims config.rootSlots).2
  refine ⟨run.final.bus.openSlots, ?_⟩
  rw [run.slots_eq, split, grantedSlots_append, grantedSlots_append, none_reserving,
    none_claiming, List.nil_append, List.nil_append, ← Config.openSlots_claimed reserving claiming,
    placing.openSlots_eq_append (unaddressed.undemanding _)]

/-- The devices that take a slot are paired with the first open slots. -/
theorem placements_eq (run : GrantedRun settings config) (unaddressed : config.Unaddressed)
    : (config.slotTakers (settings.host config)).length ≤ config.openSlots.length
      ∧ (deviceSteps settings config).filterMap RenderStep.placement?
        = (config.slotTakers (settings.host config)).zip config.openSlots := by
  obtain ⟨rest, opened⟩ := run.exists_openSlots_eq unaddressed
  have takers := run.slotTakers_eq unaddressed
  have counted : (config.slotTakers (settings.host config)).length
      = ((deviceSteps settings config).filterMap RenderStep.slot?).length := by
    rw [← takers, List.length_map, List.length_filterMap_eq_countP,
      List.countP_eq_length_filter]
  constructor
  · rw [opened, List.length_append, counted]
    exact Nat.le_add_right _ _
  · calc (deviceSteps settings config).filterMap RenderStep.placement?
        = (config.slotTakers (settings.host config)).zip
            ((deviceSteps settings config).filterMap RenderStep.slot?) := by
          rw [← takers]
          exact filterMap_map_pair RenderStep.slot? (fun step => step.planned.device) _
      _ = (config.slotTakers (settings.host config) ++ []).zip
            ((deviceSteps settings config).filterMap RenderStep.slot? ++ rest) := by
          rw [List.zip_append counted, List.zip_nil_left, List.append_nil]
      _ = (config.slotTakers (settings.host config)).zip config.openSlots := by
          rw [List.append_nil, opened]

/-- A step with a slot renders it in its only device option. -/
theorem rendersSlot (run : GrantedRun settings config) {step : RenderStep} {slot : Nat}
    (member : step ∈ deviceSteps settings config) (given : step.slot? = some slot)
    : RendersSlot step.options slot := by
  obtain ⟨own, granted, options⟩ := run.step_granted member
  obtain ⟨address, asked, _⟩ := Option.bind_eq_some_iff.mp given
  obtain ⟨allocated, owns⟩ := step.owns_of_granted granted options asked
  obtain rfl := Option.some.inj (given.symm.trans owns.recorded)
  exact owns.rendered

end GrantedRun

/-- Where no device gives an address, the devices that take a slot get the open slots in their
order, and the assembly is out of slots exactly if there are more of them than open slots.
-/
theorem placedAutomatically_of_unaddressed {settings : BuildSettings} {config : Config}
    (valid : config.problems = []) (distinct : config.explicitBootIndices.Nodup)
    (inside : ∀ slot ∈ config.rootSlots, slot < 31)
    (counted
      : (build settings config).outcome
        ≠ .error (.allocation (.noNextIndex IndexRegistry.bootCategory)))
    (unaddressed : config.Unaddressed)
    : PlacedAutomatically settings config := by
  have roomy (invocation : Invocation)
      (built : (build settings config).outcome = .ok invocation)
      : (config.slotTakers (settings.host config)).length ≤ config.openSlots.length := by
    obtain ⟨_, run, rfl⟩ := build_ok_iff.mp built
    exact (run.placements_eq unaddressed).1
  have crowded (cause : AllocationError)
      (failed : (build settings config).outcome = .error (.allocation cause))
      : cause = .exhausted 4 30
        ∧ config.openSlots.length < (config.slotTakers (settings.host config)).length := by
    obtain ⟨final, refused⟩ := (build_error_iff.mp failed).2
    refine unaddressed.crowded_of_refused distinct inside ?_ refused
    rintro rfl
    exact counted failed
  have outcomes
      : (∃ invocation, (build settings config).outcome = .ok invocation)
        ∨ ∃ cause, (build settings config).outcome = .error (.allocation cause) := by
    rcases build_cases settings config with
      ⟨problems, _⟩ | ⟨_, run, built⟩ | ⟨_, cause, _, _, failed⟩
    · exact absurd valid problems
    · exact Or.inl ⟨_, built⟩
    · exact Or.inr ⟨cause, failed⟩
  constructor
  case succeeds =>
    constructor
    · rintro ⟨invocation, built⟩
      exact roomy invocation built
    · intro room
      rcases outcomes with built | ⟨cause, failed⟩
      · exact built
      · exact absurd room (Nat.not_le.mpr (crowded cause failed).2)
  case deals =>
    intro invocation built
    obtain ⟨_, run, rfl⟩ := build_ok_iff.mp built
    constructor
    case placements => exact (run.placements_eq unaddressed).2
    case rendered =>
      intro step member slot given
      exact run.rendersSlot member given
    case options => exact run.exists_options_eq
    case arguments => exact run.exists_arguments_eq
  case exhausted =>
    constructor
    · intro failed
      exact (crowded _ failed).2
    · intro full
      rcases outcomes with ⟨invocation, built⟩ | ⟨cause, failed⟩
      · exact absurd (roomy invocation built) (Nat.not_le.mpr full)
      · rw [failed, (crowded cause failed).1]

/-- A guest with a port and a bridge in the highest slots, whose other devices give no address. -/
def unaddressedGuest : Config where
  rootPorts := [{ id := "rp0", address := "0x1d.0x0", multifunction := true }]
  bridges := [{ id := "br0", type := .pcie, bus := "pcie.0", address := "30" }]
  scsiControllers := [{ id := "scsi0" }, { id := "scsi1", transport := some .mmio }]
  ideControllers := [{ id := "ide0", driver := "ahci" }]
  disks :=
    [{ id := "d0", driver := "virtio-blk", file := "a.img", interface := "none",
       format := "raw", bootIndex := some "auto" },
     { id := "d1", driver := "virtio-blk", file := "b.img", interface := "none",
       format := "raw", driveOnly := true }]
  netDevices := [{ id := "n0", driver := "virtio-net", bootIndex := some "0" }]
  entropySources := [{ id := "rng0", driver := "virtio-rng" }]

/-- The four devices of the guest that take a slot are dealt the slots 28 down to 25. -/
theorem placedAutomatically_unaddressedGuest
    : (unaddressedGuest.slotTakers ({ : BuildSettings }.host unaddressedGuest)).length = 4
      ∧ unaddressedGuest.openSlots.take 4 = [28, 27, 26, 25]
      ∧ PlacedAutomatically {} unaddressedGuest := by
  have succeeds : (build {} unaddressedGuest).outcome.toOption.isSome = true := by
    decide +kernel
  have counted : (build {} unaddressedGuest).outcome
      ≠ .error (.allocation (.noNextIndex IndexRegistry.bootCategory)) := by
    intro overflows
    rw [overflows] at succeeds
    cases succeeds
  have unaddressed : unaddressedGuest.Unaddressed := by
    unfold Config.Unaddressed
    decide +kernel
  exact ⟨by decide +kernel, by decide +kernel,
    placedAutomatically_of_unaddressed (by decide +kernel) (by decide +kernel)
      (by decide +kernel) counted unaddressed⟩

end GuestLaunch
