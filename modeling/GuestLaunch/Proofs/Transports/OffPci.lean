import GuestLaunch.Proofs.RunGrowth.AppendOnly
import GuestLaunch.Proofs.Transports.VirtioParams

/-!
The root bus and devices off PCI. Of the kinds that have virtio devices, a device on channel I/O
or on memory-mapped registers leaves the root bus alone, with one exception: a network card that
is given an address is placed on the bus as if it were on PCI.
-/

namespace GuestLaunch

/-- Whether the root bus has no slot for a device, as opposed to the other causes. -/
def AllocationError.isSlotError : AllocationError → Bool
  | exhausted _ _ | collision _ | outOfRange _ => true
  | indexTaken _ _ | emptyCategory | noNextIndex _ => false

/-- Whether a device is of a kind that has virtio devices. -/
def Device.isVirtioKind : Device → Bool
  | scsi _ | disk _ | char _ | net _ | entropy _ | balloon _ | virtioSerial _ => true
  | _ => false

/-- The address of a network card that is rendered with one: there is a card at all, and its
address is set.
-/
def Device.cardAddress? : Device → Option String
  | net card => card.slotAddress?
  | _ => none

/-- Rendering a device leaves the root bus alone. -/
structure StaysOffBus (device : Device) (placement : Placement) (architecture : Architecture)
    (state : RunState) : Prop where
  /-- The same slots are occupied before and after it, whether or not it succeeds. -/
  slots
    : (state.after (.render device placement architecture)).bus.usedSlots
      = state.bus.usedSlots
  /-- No option has an address. -/
  address
    : ∀ options after,
        (device.render placement architecture).run state = (.ok options, after)
        → ∀ flag, propertyValues flag "addr" options = []
  /-- It never fails for want of a slot. -/
  failure
    : ∀ cause after,
        (device.render placement architecture).run state = (.error cause, after)
        → cause.isSlotError = false

/-- A device with an address is placed on the root bus whatever its transport is. -/
structure PlacedAsOnPci (device : Device) (address : String) (placement : Placement)
    (architecture : Architecture) (state : RunState) : Prop where
  /-- It does to the run what it does on PCI, whether or not it succeeds. -/
  after
    : state.after (.render device placement architecture)
      = state.after (.render device { placement with transport := .pci } architecture)
  /-- If it succeeds, it has taken the slot that the bus gives for its address, and that slot is
  rendered.
  -/
  slot
    : ∀ options final,
        (device.render placement architecture).run state = (.ok options, final)
        → ∃ slot,
            state.bus.allocate address = .ok (slot, final.bus) ∧ RendersSlot options slot

-----------------------------------------------------------------------------------------
-- Devices without an address
-----------------------------------------------------------------------------------------

/-- Off PCI only a network card asks for a slot, by the kind of the device. -/
theorem Device.slotAddress?_off_pci {device : Device} (kind : device.isVirtioKind = true)
    {transport : Transport} (off : transport ≠ .pci)
    : device.slotAddress? transport = device.cardAddress? := by
  cases device with
  | scsi | entropy => exact if_neg off
  | disk device =>
      refine if_neg ?_
      simp [off]
  | net | char | balloon | virtioSerial => rfl
  | _ => cases kind

/-- Without a granted slot no virtio device has an address, by the kind of the device. -/
theorem Device.addr_optionsFor {device : Device} (kind : device.isVirtioKind = true)
    (placement : Placement) (architecture : Architecture) {grants : List Grant}
    (none : slotIn? grants = none) (flag : Flag)
    : propertyValues flag "addr" (device.optionsFor placement architecture grants) = [] := by
  cases device with
  | scsi controller =>
      cases thread : controller.ioThread.isEmpty <;>
        simp [optionsFor, ScsiController.optionsFor, ScsiController.params,
          ScsiController.threadOptions, thread, none]
  | disk device =>
      simp [optionsFor, Disk.optionsFor, Disk.driveParams, Disk.deviceParams,
        Disk.controllerParams, Disk.geometryParams, Disk.featureParams, none]
  | char device =>
      simp [optionsFor, CharDevice.launchOptions, CharDevice.guestOptions,
        CharDevice.deviceParams, CharDevice.virtioParams, CharDevice.endpointParams,
        LaunchOption.value]
  | net card =>
      have named : valuesUnder "addr" card.namedParams = [] :=
        card.valuesUnder_namedParams (by decide)
      have backend : propertyValues flag "addr" (card.backendOptionsFor grants) = [] := by
        unfold NetDevice.backendOptionsFor
        split <;>
          simp [NetDevice.backendParamsFor, named, NetDevice.vhostKey, NetDevice.queueKey]
      simp [optionsFor, NetDevice.optionsFor, backend, NetDevice.cardOptionsFor,
        NetDevice.cardParams, NetDevice.queueParams, none]
  | entropy source =>
      simp [optionsFor, EntropySource.optionsFor, EntropySource.objectParams,
        EntropySource.deviceParams, EntropySource.limitParam, none]
  | balloon device => simp [optionsFor, Balloon.launchOptions, Balloon.params]
  | virtioSerial controller =>
      simp [optionsFor, VirtioSerial.launchOptions, VirtioSerial.params,
        VirtioSerial.portParams]
  | _ => cases kind

/-- A request that is refused for want of a slot claims a slot or asks for one. -/
theorem isSlotError_of_refusal {state : RunState} {request : Request} {cause : AllocationError}
    (refusal : Refusal state request cause)
    : cause.isSlotError = true
      ↔ request.claimed?.isSome = true ∨ request.placed?.isSome = true := by
  cases refusal with
  | outOfRange | exhausted | collision | indexTaken | noNextIndex =>
      simp [AllocationError.isSlotError, Request.claimed?, Request.placed?]

/-- A device that neither claims a slot nor asks for one leaves the root bus alone. -/
theorem Device.staysOffBus_of_unplaced {device : Device} (kind : device.isVirtioKind = true)
    {placement : Placement} (unplaced : device.slotAddress? placement.transport = none)
    (architecture : Architecture) (state : RunState)
    : StaysOffBus device placement architecture state := by
  have own : device.rootSlot? = none := by
    cases device <;> first | rfl | cases kind
  obtain ⟨claimed, placed⟩ := slots_requests_of_unplaced own unplaced
  constructor
  case slots =>
    rw [state.after_eq, RunStep.requests, bus_serveAll_eq claimed placed]
  case address =>
    intro options after rendered flag
    obtain ⟨grants, granted, rfl⟩ := exists_optionsFor_of_render rendered
    refine addr_optionsFor kind placement architecture ?_ flag
    rw [slotIn?_eq_head?, granted.slots_eq_nil placed]
    rfl
  case failure =>
    intro cause after failed
    obtain ⟨request, member, refusal⟩ := (refused_of_render failed).exists_mem_refusal
    have unclaimed := List.filterMap_eq_nil_iff.mp claimed request member
    have unasked := List.filterMap_eq_nil_iff.mp placed request member
    rw [Bool.eq_false_iff, Ne, isSlotError_of_refusal refusal, unclaimed, unasked]
    simp

-----------------------------------------------------------------------------------------
-- Network cards with an address
-----------------------------------------------------------------------------------------

namespace NetDevice
variable {card : NetDevice} {address : String}

/-- A card with an address asks for its slot behind what the backend inherits and before its
boot index.
-/
theorem requests_of_slotAddress? (asks : card.slotAddress? = some address)
    : card.requests
      = (card.backendRequests ++ [.place address]) ++ indexRequests card.bootIndex := by
  obtain ⟨present, own⟩ := Option.ite_none_left_eq_some.mp asks
  have rendered : card.isSkipped = false ∧ card.driver.isEmpty = false := by
    cases skipped : card.isSkipped <;> cases bare : card.driver.isEmpty <;>
      simp [skipped, bare] at present ⊢
  simp [requests, cardRequests, slotRequests, asks, rendered]

theorem exists_inherit_of_mem_backendRequests {request : Request}
    (member : request ∈ card.backendRequests)
    : ∃ key descriptors, request = .inherit key descriptors := by
  unfold backendRequests at member
  split at member
  · cases member
  · rcases List.mem_append.mp member with vhost | queue
    · exact ⟨_, _, (List.mem_singleton.mp (List.mem_ite_nil_left.mp vhost).2)⟩
    · exact ⟨_, _, (List.mem_singleton.mp (List.mem_ite_nil_left.mp queue).2)⟩

/-- Up to the slot of a card nothing but the slot is refused: descriptors are always granted. -/
theorem isSlotError_of_refused {state final : RunState} {cause : AllocationError}
    (refused : Refused state (card.backendRequests ++ [.place address]) cause final)
    : cause.isSlotError = true := by
  obtain ⟨request, member, refusal⟩ := refused.exists_mem_refusal
  rcases List.mem_append.mp member with inherited | slot
  · obtain ⟨key, descriptors, rfl⟩ := exists_inherit_of_mem_backendRequests inherited
    cases refusal
  · cases List.mem_singleton.mp slot
    exact (isSlotError_of_refusal refusal).mpr (Or.inr rfl)

/-- A card with an address never leaves the root bus alone: it is refused a slot, or it takes
one, which it keeps even if its boot index is refused after that.
-/
theorem not_staysOffBus (asks : card.slotAddress? = some address) (placement : Placement)
    (architecture : Architecture) (state : RunState)
    : ¬StaysOffBus (.net card) placement architecture state := by
  intro stays
  have requested : (Device.net card).requests placement.transport
      = (card.backendRequests ++ [.place address]) ++ indexRequests card.bootIndex :=
    requests_of_slotAddress? asks
  have placed : placedAddresses (card.backendRequests ++ [.place address]) ≠ [] := by
    rw [placedAddresses_append]
    exact List.append_ne_nil_of_right_ne_nil _ (List.cons_ne_nil _ _)
  rcases granted_or_refused state (card.backendRequests ++ [.place address]) with
    ⟨_, middle, granted⟩ | ⟨cause, final, refused⟩
  · -- The boot index behind the slot is served or refused without touching the bus.
    have kept : (state.after (.render (.net card) placement architecture)).bus = middle.bus := by
      rw [state.after_eq, RunStep.requests, requested, granted.serveAll_append]
      exact bus_serveAll_eq (by simp) (by simp) middle
    exact granted.usedSlots_ne placed (kept ▸ stays.slots)
  · have failed : ((Device.net card).render placement architecture).run state
        = (.error cause, final) := by
      rw [Device.render_eq, Render.run_map, requested, (refused.append _).serve]
    have slotError := isSlotError_of_refused refused
    rw [stays.failure cause final failed] at slotError
    cases slotError

end NetDevice

/-- What a device with an address asks for does not depend on its transport. -/
theorem Device.placedAsOnPci {device : Device} {address : String}
    (addressed : device.cardAddress? = some address) (placement : Placement)
    (architecture : Architecture) (state : RunState)
    : PlacedAsOnPci device address placement architecture state := by
  cases device with
  | net card =>
      constructor
      case after =>
        rw [state.after_eq, state.after_eq]
        rfl
      case slot =>
        intro options final rendered
        obtain ⟨grants, granted, rfl⟩ := exists_optionsFor_of_render rendered
        obtain ⟨slot, allocated, slots⟩ := Granted.allocate_of_slotAddress? granted addressed
        have first : slotIn? grants = some slot := by
          rw [slotIn?_eq_head?, slots]
          rfl
        obtain ⟨_, ⟨_, inside⟩, _⟩ := RootBus.allocate_ok allocated
        refine ⟨slot, allocated, ?_⟩
        exact @rendersSlot_optionsFor placement grants address slot (.net card) addressed first
          (Nat.lt_trans inside (by decide)) architecture
  | _ => cases addressed

/-- Off PCI a device of a kind that has virtio devices leaves the root bus alone exactly if it is
no network card with an address. Such a card is placed as it is on PCI.
-/
theorem staysOffBus_iff_of_off_pci {device : Device} (kind : device.isVirtioKind = true)
    {placement : Placement} (off : placement.transport ≠ .pci) (architecture : Architecture)
    (state : RunState)
    : (StaysOffBus device placement architecture state ↔ device.cardAddress? = none)
      ∧ (∀ address,
          device.cardAddress? = some address
          → PlacedAsOnPci device address placement architecture state) := by
  refine ⟨⟨?_, ?_⟩, ?_⟩
  · intro stays
    cases device with
    | net card =>
        by_contra addressed
        obtain ⟨address, asks⟩ := Option.ne_none_iff_exists'.mp addressed
        exact card.not_staysOffBus asks placement architecture state stays
    | _ => rfl
  · intro unaddressed
    exact device.staysOffBus_of_unplaced kind
      ((Device.slotAddress?_off_pci kind off).trans unaddressed) architecture state
  · intro address addressed
    exact Device.placedAsOnPci addressed placement architecture state

/-- A controller whose address is occupied cannot be placed on PCI, and off PCI it does not try
to.
-/
theorem staysOffBus_occupiedAddress
    : let controller : ScsiController := { id := "scsi0", address := "0x5" }
      let state : RunState := { bus := RootBus.occupy { policy := .strict } 5 }
      ((controller.render { transport := .pci }).run state).1.toOption = none
        ∧ StaysOffBus (.scsi controller) { transport := .mmio } .x86_64 state := by
  intro controller state
  have addressless : (Device.scsi controller).cardAddress? = none := rfl
  exact ⟨by decide +kernel,
    (staysOffBus_iff_of_off_pci rfl (by decide) .x86_64 state).1.mpr addressless⟩

/-- A card on channel I/O with an address. -/
def addressedCard : NetDevice where
  id := "n0"
  driver := "virtio-net"
  mac := "52:54:00:00:00:01"
  address := "0x5"
  deviceNumber := "fe.0.0001"

/-- The card takes a slot of the root bus, and its address is rendered beside its device
number.
-/
theorem not_staysOffBus_addressedCard
    : let placement : Placement := { transport := .ccw }
      let state : RunState := .initial .strict
      state.bus.usedSlots = []
        ∧ (state.after (.render (.net addressedCard) placement .s390x)).bus.usedSlots = [5]
        ∧ ((addressedCard.render placement).run state).1.toOption.map
            (fun options =>
              (propertyValues .device "addr" options, propertyValues .device "devno" options))
          = some (["0x05"], ["fe.0.0001"])
        ∧ ¬StaysOffBus (.net addressedCard) placement .s390x state := by
  intro placement state
  have free : state.bus.usedSlots = [] := by decide
  have taken : (state.after (.render (.net addressedCard) placement .s390x)).bus.usedSlots
      = [5] := by
    decide +kernel
  refine ⟨free, taken, by decide +kernel, ?_⟩
  intro stays
  have same := stays.slots
  rw [free, taken] at same
  cases same

end GuestLaunch
