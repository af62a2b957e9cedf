import GuestLaunch.Proofs.Outcome.Classification
import GuestLaunch.Proofs.Placement.RenderTrace

/-!
Slots that several devices share. Root ports and bridges on the root bus may share a slot as its
functions, and every other device has its slot alone. Which functions the ports and bridges name is
not looked at: a slot is claimed as a whole, so two of them may even name the same function of it.
-/

namespace GuestLaunch

/-- The function that an address names behind its slot, which is the first where it names none. -/
def BusAddress.function? (address : String) : Option Nat :=
  match (afterLast '/' address.toList).dropWhile (· != '.') with
  | [] => some 0
  | _ :: text => number? (Text.trim text)

/-- The slot and the function of the root bus that a bus and an address name together. -/
def rootPlaceOf? (bus address : String) : Option (Nat × Nat) :=
  (rootSlotOf? bus address).bind fun slot =>
    (BusAddress.function? address).map fun function => (slot, function)

def Device.rootPlace? : Device → Option (Nat × Nat)
  | rootPort device => rootPlaceOf? device.bus device.effectiveAddress
  | bridge device => rootPlaceOf? device.bus device.address
  | _ => none

/-- No two root ports or bridges name the same place on the root bus. -/
def Config.PlacesDistinct (config : Config) : Prop :=
  (config.devices.filterMap Device.rootPlace?).Nodup

/-- A step occupies a slot: its device names the slot as a root port or bridge, or is allocated
it.
-/
def RenderStep.SitsIn (step : RenderStep) (slot : Nat) : Prop :=
  step.planned.device.rootSlot? = some slot ∨ step.slot? = some slot

/-- How the devices of an assembly that succeeds share the slots of the root bus. -/
structure SlotsShared (settings : BuildSettings) (config : Config) : Prop where
  /-- Two devices in one slot are root ports or bridges that both name it. -/
  functions
    : (deviceSteps settings config).Pairwise fun first second =>
        ∀ slot,
          first.SitsIn slot
          → second.SitsIn slot
          → first.planned.device.rootSlot? = some slot
            ∧ second.planned.device.rootSlot? = some slot
  inside : ∀ slot ∈ config.rootSlots, slot ≤ 30
  /-- Any other root ports and bridges that name the same slots, whatever their functions, are as
  good: the assembly succeeds with them, and the other devices get the same slots.
  -/
  exchangeable
    : ∀ (rootPorts : List RootPort) (bridges : List Bridge),
        { config with rootPorts, bridges }.problems = []
        → (∀ slot,
            slot ∈ { config with rootPorts, bridges }.rootSlots ↔ slot ∈ config.rootSlots)
        → (∃ invocation,
            (build settings { config with rootPorts, bridges }).outcome = .ok invocation)
          ∧ (deviceSteps settings { config with rootPorts, bridges }).filterMap
              RenderStep.placement?
            = (deviceSteps settings config).filterMap RenderStep.placement?

/-- A guest with two root ports at the same function of the same slot. -/
def twinPortGuest : Config where
  rootPorts := [{ id := "rp0", address := "0x5.0x1" }, { id := "rp1", address := "0x5.0x1" }]

/-- An assembly may succeed with two root ports at the same place. -/
theorem not_placesDistinct_twinPortGuest
    : (∃ invocation, (build {} twinPortGuest).outcome = .ok invocation)
      ∧ ¬twinPortGuest.PlacesDistinct := by
  constructor
  · exact BuildReport.exists_invocation (by decide +kernel)
  · unfold Config.PlacesDistinct
    decide +kernel

-----------------------------------------------------------------------------------------
-- Runs of claims
-----------------------------------------------------------------------------------------

/-- A bus is its policy and its occupied slots. -/
theorem RootBus.eq_of_isUsed {bus other : RootBus} (policy : bus.policy = other.policy)
    (used : ∀ slot, bus.isUsed slot = other.isUsed slot)
    : bus = other := by
  obtain ⟨own, occupied⟩ := bus
  obtain ⟨same, further⟩ := other
  obtain rfl : own = same := policy
  congr 1
  refine Vector.ext fun slot inside => ?_
  simpa [isUsed, inside] using used slot

namespace Granted
variable {state final : RunState} {slots : List Nat} {grants : List Grant}

/-- Claims change nothing but the bus, by induction on the slots. -/
theorem eq_of_claims (h : Granted state (slots.map Request.claim) grants final)
    : final = { state with bus := final.bus } := by
  induction slots generalizing state grants with
  | nil =>
      cases h
      rfl
  | cons slot rest ih =>
      cases h with
      | cons first later =>
          cases Request.answered_of_ok first with
          | claim inside =>
              have behind := ih later
              exact behind

/-- Claiming the same slots ends in the same state, in whatever order and however often they are
claimed.
-/
theorem claims_eq {again : List Nat} {other : RunState} {more : List Grant}
    (h : Granted state (slots.map Request.claim) grants final)
    (further : Granted state (again.map Request.claim) more other)
    (same : ∀ slot, slot ∈ again ↔ slot ∈ slots)
    : other = final := by
  have bus : other.bus = final.bus := by
    refine RootBus.eq_of_isUsed (further.policy_eq.trans h.policy_eq.symm) fun slot => ?_
    obtain ⟨claimed, unplaced⟩ := Config.slots_claims slots
    obtain ⟨reclaimed, none⟩ := Config.slots_claims again
    rw [Bool.eq_iff_iff, further.isUsed_iff, h.isUsed_iff, further.slots_eq_nil none,
      h.slots_eq_nil unplaced, reclaimed, claimed, same]
  rw [further.eq_of_claims, h.eq_of_claims, bus]

end Granted

-----------------------------------------------------------------------------------------
-- The devices behind the claims
-----------------------------------------------------------------------------------------

/-- The root ports and bridges of an assembly are allocated nothing, so its placements are those of
the other devices, which begin once all slots are claimed.
-/
theorem placements_of_claimed {settings : BuildSettings} {config : Config}
    {reservations recorded : List Grant} {reserved claimed : RunState}
    (reserving
      : Granted (RunState.initial settings.policy) config.reserveRequests reservations reserved)
    (claiming : Granted reserved (config.rootSlots.map Request.claim) recorded claimed)
    : (deviceSteps settings config).filterMap RenderStep.placement?
      = (renderSteps settings.architecture config.knobs.iommuPlatform claimed
          (config.placedDevices.map (PlannedDevice.of (settings.host config)))).filterMap
            RenderStep.placement? := by
  let host := settings.host config
  have claims := Config.claims_eq host config.claimingDevices
    fun _ member => Config.requests_of_mem_claimingDevices member
  rw [Config.rootSlots_eq, ← claims] at claiming
  -- The claims are all that the first devices ask for, so they form a part of the plan.
  obtain ⟨each, _, granted⟩ := Granted.plan claiming
  have unplaced : (renderSteps settings.architecture config.knobs.iommuPlatform reserved
      (config.claimingDevices.map (PlannedDevice.of host))).filterMap RenderStep.placement?
      = [] := by
    refine List.filterMap_eq_nil_iff.mpr fun step member => ?_
    have planned : step.planned ∈ config.claimingDevices.map (PlannedDevice.of host) := by
      rw [← granted.steps_planned settings.architecture config.knobs.iommuPlatform]
      exact List.mem_map_of_mem member
    obtain ⟨device, listed, same⟩ := List.mem_map.mp planned
    have asks : step.planned.device.slotAddress? step.planned.transport = none := by
      rw [← same]
      exact Config.slotAddress?_of_mem_claimingDevices listed _
    rw [RenderStep.placement?, RenderStep.slot?, asks]
    rfl
  rw [deviceSteps_of_reserved reserving, Config.plan, Config.devices_eq, List.map_append,
    granted.renderSteps_append, List.filterMap_append, unplaced, List.nil_append]

-----------------------------------------------------------------------------------------
-- Assemblies
-----------------------------------------------------------------------------------------

namespace GrantedRun
variable {settings : BuildSettings} {config : Config}

/-- Two steps in one slot belong to devices that claim it: a slot that is allocated is allocated
once, and claimed by no device.
-/
theorem pairwise_sitsIn (run : GrantedRun settings config)
    : (deviceSteps settings config).Pairwise fun first second =>
        ∀ slot,
          first.SitsIn slot
          → second.SitsIn slot
          → first.planned.device.rootSlot? = some slot
            ∧ second.planned.device.rootSlot? = some slot := by
  have allocated : (deviceSteps settings config).Pairwise fun first second =>
      ∀ slot, first.slot? = some slot → ∀ again, second.slot? = some again → slot ≠ again := by
    have distinct := run.granted.slots_nodup
    rw [← run.slots_eq] at distinct
    exact List.pairwise_filterMap.mp distinct
  have unclaimed {first second : RenderStep} {slot : Nat}
      (claims : first ∈ deviceSteps settings config)
      (holds : second ∈ deviceSteps settings config)
      (claimed : first.planned.device.rootSlot? = some slot)
      : second.slot? ≠ some slot := by
    intro given
    have listed : slot ∈ config.rootSlots :=
      List.mem_filterMap.mpr ⟨first.planned.device, run.device_mem_devices claims, claimed⟩
    refine run.granted.slots_unclaimed ?_ listed
    rw [← run.slots_eq]
    exact List.mem_filterMap.mpr ⟨second, holds, given⟩
  refine allocated.imp_of_mem fun {first second} earlier later apart slot => ?_
  rintro (own | own) (again | again)
  · exact ⟨own, again⟩
  · exact absurd again (unclaimed earlier later own)
  · exact absurd own (unclaimed later earlier again)
  · exact absurd rfl (apart slot own slot again)

/-- With other root ports and bridges that name the same slots, everything is granted again, and the
other devices are allocated the same slots: behind the claims the state is the same.
-/
theorem exchange (run : GrantedRun settings config) (rootPorts : List RootPort)
    (bridges : List Bridge)
    (same
      : ∀ slot, slot ∈ { config with rootPorts, bridges }.rootSlots ↔ slot ∈ config.rootSlots)
    : Nonempty (GrantedRun settings { config with rootPorts, bridges })
      ∧ (deviceSteps settings { config with rootPorts, bridges }).filterMap
          RenderStep.placement?
        = (deviceSteps settings config).filterMap RenderStep.placement? := by
  let further : Config := { config with rootPorts, bridges }
  obtain ⟨_, _, _, reserved, claimed, _, reserving, claiming, placing⟩ :=
    run.granted.exists_phases
  -- Neither the boot indices nor what is behind the claims depends on ports and bridges, so the two
  -- runs differ in their claims only.
  have reserves : further.reserveRequests = config.reserveRequests := by
    rw [Config.reserveRequests, Config.reserveRequests, Config.explicitBootIndices_eq,
      Config.explicitBootIndices_eq]
  rw [← reserves] at reserving
  have inside : ∀ slot ∈ further.rootSlots, slot < slotCount := by
    intro slot member
    exact (granted_claims_iff _ _).mp ⟨_, _, claiming⟩ slot ((same slot).mp member)
  obtain ⟨again, reclaimed, reclaiming⟩ := (granted_claims_iff reserved _).mpr inside
  obtain rfl := claiming.claims_eq reclaiming same
  have later : further.laterRequests (settings.host further)
      = config.laterRequests (settings.host config) :=
    rfl
  constructor
  · rw [← later] at placing
    have granted := reserving.append (reclaiming.append placing)
    rw [← Config.requests_eq] at granted
    obtain ⟨rerun, _⟩ := GrantedRun.of_granted granted
    exact ⟨rerun⟩
  · rw [placements_of_claimed reserving reclaiming,
      placements_of_claimed (reserves ▸ reserving) claiming]
    rfl

end GrantedRun

/-- In an assembly that succeeds, slots are shared by root ports and bridges only, and of these only
the slots matter that they name.
-/
theorem slotsShared_of_build {settings : BuildSettings} {config : Config}
    {invocation : Invocation} (built : (build settings config).outcome = .ok invocation)
    : SlotsShared settings config := by
  obtain ⟨_, run, rfl⟩ := build_ok_iff.mp built
  constructor
  case functions => exact run.pairwise_sitsIn
  case inside =>
    intro slot member
    obtain ⟨_, _, _, _, _, _, _, claiming, _⟩ := run.granted.exists_phases
    exact Nat.le_of_lt_succ ((granted_claims_iff _ _).mp ⟨_, _, claiming⟩ slot member)
  case exchangeable =>
    intro rootPorts bridges valid same
    obtain ⟨⟨rerun⟩, placements⟩ := run.exchange rootPorts bridges same
    exact ⟨⟨rerun.invocation, rerun.build_outcome valid⟩, placements⟩

/-- The guest whose ports sit at the same place is assembled, and shares slots among ports only. -/
theorem slotsShared_twinPortGuest
    : ∃ invocation,
        (build {} twinPortGuest).outcome = .ok invocation ∧ SlotsShared {} twinPortGuest := by
  have succeeds : (build {} twinPortGuest).outcome.toOption.isSome = true := by
    decide +kernel
  obtain ⟨invocation, built⟩ := BuildReport.exists_invocation succeeds
  exact ⟨invocation, built, slotsShared_of_build built⟩

end GuestLaunch
