import GuestLaunch.Proofs.Outcome.Classification
import GuestLaunch.Proofs.Outcome.CollisionPolicies
import GuestLaunch.Proofs.Placement.RenderTrace
import GuestLaunch.Proofs.Placement.SlotMachine

/-!
Where collisions come from. The device at which an assembly stops asks for the slot, and an earlier
device has it: one whose address names the slot as well, or one without a usable address to which
the slot was given automatically. No slot is kept back for an address that is read later.
-/

namespace GuestLaunch

/-- The slot that a device names by an address of its own: up to a function for the devices that
claim their slot on the root bus, and as the whole address for those that are placed.
-/
def Device.namedSlot? : Device → Option Nat
  | rootPort device => rootSlotOf? device.bus device.address
  | bridge device => rootSlotOf? device.bus device.address
  | device => device.givenAddress?.bind BusAddress.slot?

/-- The devices that name a slot by an address of their own. -/
def Config.claimants (config : Config) (slot : Nat) : List Device :=
  config.devices.filter fun device => device.namedSlot? == some slot

/-- Every slot on which an assembly collides is named by two devices. -/
def CollidesOnClaimants (settings : BuildSettings) (config : Config) : Prop :=
  ∀ slot,
    (build settings config).outcome = .error (.allocation (.collision slot))
    → 2 ≤ (config.claimants slot).length

/-- A slot is free before a step and occupied behind it. -/
structure RenderStep.Occupies (step : RenderStep) (slot : Nat) : Prop where
  free : step.before.bus.isUsed slot = false
  used : step.after.bus.isUsed slot = true

/-- The slot of a step was given to a device whose address asks for no slot. -/
structure RenderStep.TakesAutomatically (step : RenderStep) (slot : Nat) : Prop where
  recorded : step.slot? = some slot
  automatic : 4 ≤ slot
  unasked
    : ∀ address,
        step.planned.device.slotAddress? step.planned.transport = some address
        → ∀ asked, ¬AsksFor address asked

/-- Why an assembly collides on a slot. -/
structure CollisionExplained (settings : BuildSettings) (config : Config) (slot : Nat)
    : Prop where
  policy : settings.policy = .strict
  /-- The steps end before a device that asks for the slot by its address. -/
  failing
    : ∃ failing after address,
        config.plan (settings.host config)
          = (deviceSteps settings config).map RenderStep.planned ++ failing :: after
        ∧ failing.device.slotAddress? failing.transport = some address
        ∧ AsksFor address slot
        ∧ failing.device ∈ config.claimants slot
  range : 1 ≤ slot ∧ slot ≤ 30
  /-- The slot is occupied in the state in which the steps end. -/
  occupied
    : ∃ last,
        (deviceSteps settings config).getLast? = some last
        ∧ last.after.bus.isUsed slot = true
  /-- One of the steps has occupied it: that of a device that names the slot as well, so that two
  devices of the configuration do, or one whose slot was given to it automatically.
  -/
  holder
    : ∃ step ∈ deviceSteps settings config,
        step.Occupies slot
        ∧ ((step.planned.device.namedSlot? = some slot ∧ 2 ≤ (config.claimants slot).length)
          ∨ step.TakesAutomatically slot)

/-- A guest with an entropy source that names the slot which its SCSI controller gets. -/
def lateAddressGuest : Config where
  scsiControllers := [{ id := "scsi0" }]
  entropySources := [{ id := "rng0", driver := "virtio-rng", address := "0x1e" }]

/-- A collision may have one claimant only: the controller takes the slot before the address of the
entropy source is read.
-/
theorem not_collidesOnClaimants_lateAddressGuest : ¬CollidesOnClaimants {} lateAddressGuest := by
  intro claimed
  have collides : (build {} lateAddressGuest).outcome = .error (.allocation (.collision 30)) := by
    decide +kernel
  exact absurd (claimed 30 collides) (by decide +kernel)

-----------------------------------------------------------------------------------------
-- The slots that devices name
-----------------------------------------------------------------------------------------

/-- A device that claims a slot names it, unless it is the first slot, which a port claims without
an address.
-/
theorem Device.namedSlot?_of_rootSlot? {device : Device} {slot : Nat}
    (claimed : device.rootSlot? = some slot) (positive : 1 ≤ slot)
    : device.namedSlot? = some slot := by
  cases device with
  | rootPort port =>
      have effective : rootSlotOf? port.bus port.effectiveAddress = some slot := claimed
      by_cases unset : port.address.isEmpty
      · have first : BusAddress.slotBeforeFunction? RootPort.defaultAddress = some 0 := by
          decide +kernel
        rw [RootPort.effectiveAddress, Text.orElse, if_pos unset, rootSlotOf?, first] at effective
        obtain ⟨_, same⟩ := Option.ite_none_right_eq_some.mp effective
        cases same
        cases positive
      · rw [RootPort.effectiveAddress, Text.orElse, if_neg unset] at effective
        exact effective
  | bridge => exact claimed
  | _ => cases claimed

/-- A device that is placed names the slot that its address names. -/
theorem Device.namedSlot?_of_slotAddress? {device : Device} {transport : Transport}
    {address : String} (asks : device.slotAddress? transport = some address)
    : device.namedSlot? = BusAddress.slot? address := by
  have given := Device.givenAddress?_of_slotAddress? asks
  have named : device.namedSlot? = device.givenAddress?.bind BusAddress.slot? := by
    cases device <;> first | rfl | cases given
  rw [named, given, Option.bind_some]

-----------------------------------------------------------------------------------------
-- Collisions on the bus
-----------------------------------------------------------------------------------------

namespace RootBus
variable {bus after : RootBus} {address : String} {slot : Nat}

/-- An allocation collides only on the slot that the address asks for, which is occupied. -/
theorem asksFor_of_collision (h : bus.allocate address = .error (.collision slot))
    : AsksFor address slot ∧ bus.isUsed slot = true := by
  by_cases asks : ∃ own, AsksFor address own
  · obtain ⟨own, asked⟩ := asks
    by_cases used : own ∈ bus.usedSet
    · rw [allocate_of_taken asked used] at h
      cases policy : bus.policy with
      | strict =>
          rw [policy] at h
          cases h
          exact ⟨asked, mem_usedSet.mp used⟩
      | legacy =>
          rw [policy] at h
          cases allocateAutomatic_error h
    · rw [allocate_of_free asked used] at h
      cases h
  · rw [allocate_of_unasked (not_exists.mp asks)] at h
    cases allocateAutomatic_error h

/-- Under the strict policy an allocation gives the slot that the address asks for. -/
theorem eq_of_asksFor {asked : Nat} (strict : bus.policy = .strict) (asks : AsksFor address asked)
    (h : bus.allocate address = .ok (slot, after))
    : slot = asked := by
  by_cases used : asked ∈ bus.usedSet
  · rw [allocate_of_taken asks used, strict] at h
    cases h
  · rw [allocate_of_free asks used] at h
    cases h
    rfl

end RootBus

-----------------------------------------------------------------------------------------
-- Plans that are refused something
-----------------------------------------------------------------------------------------

/-- A plan is refused something at one of its devices, and those before it are granted all that they
ask for, by induction on the plan.
-/
theorem Refused.exists_planned {state final : RunState} {plan : List PlannedDevice}
    {cause : AllocationError}
    (h : Refused state (plan.flatMap PlannedDevice.requests) cause final)
    : ∃ before failing after grants middle,
        plan = before ++ failing :: after
        ∧ PlanGranted state before grants middle
        ∧ Refused middle failing.requests cause final := by
  induction plan generalizing state with
  | nil => cases h
  | cons planned rest ih =>
      rcases Refused.split h with own | ⟨grants, next, granted, behind⟩
      · exact ⟨[], planned, rest, [], state, rfl, .nil, own⟩
      · obtain ⟨before, failing, after, more, middle, rfl, later, refused⟩ := ih behind
        exact ⟨planned :: before, failing, after, grants :: more, middle, rfl,
          .cons granted later, refused⟩

namespace PlanGranted
variable {state middle : RunState} {before : List PlannedDevice} {grants : List (List Grant)}

/-- The trace of a plan ends before the device that is refused something. -/
theorem renderSteps_of_refused (h : PlanGranted state before grants middle)
    {final : RunState} {failing : PlannedDevice} {cause : AllocationError}
    (refused : Refused middle failing.requests cause final) (after : List PlannedDevice)
    (architecture : Architecture) (iommuPlatform : Bool)
    : renderSteps architecture iommuPlatform state (before ++ failing :: after)
      = renderSteps architecture iommuPlatform state before := by
  have ended : renderSteps architecture iommuPlatform middle (failing :: after) = [] := by
    simp only [renderSteps, refused.render architecture iommuPlatform]
  rw [h.renderSteps_append, ended, List.append_nil]

/-- All steps of a plan run under the same policy, by induction on the plan. -/
theorem steps_policy (h : PlanGranted state before grants middle) (architecture : Architecture)
    (iommuPlatform : Bool)
    : ∀ step ∈ renderSteps architecture iommuPlatform state before,
        step.before.bus.policy = state.bus.policy := by
  induction h with
  | nil =>
      intro step member
      cases member
  | cons first _ ih =>
      intro step member
      rw [renderSteps_cons first] at member
      rcases List.mem_cons.mp member with rfl | behind
      · rfl
      · exact (ih step behind).trans first.policy_eq

end PlanGranted

/-- A device collides on the slot that its address asks for, and which is occupied before the device
is rendered: it asks for no other slot and claims none.
-/
theorem Refused.asksFor_of_collision {state final : RunState} {planned : PlannedDevice}
    {slot : Nat} (h : Refused state planned.requests (.collision slot) final)
    : ∃ address,
        planned.device.slotAddress? planned.transport = some address
        ∧ AsksFor address slot
        ∧ state.bus.isUsed slot = true := by
  obtain ⟨before, request, after, grants, split, granted, answer⟩ := h.exists_answer
  obtain ⟨address, rfl⟩ : ∃ address, request = .place address := by
    cases Request.refusal_of_answer answer
    exact ⟨_, rfl⟩
  obtain ⟨asked, used⟩ := RootBus.asksFor_of_collision (Request.allocate_of_refused answer)
  -- A device asks for one slot at most, so nothing before the refused request touches the bus.
  have placed : (planned.device.slotAddress? planned.transport).toList
      = placedAddresses before ++ address :: placedAddresses after := by
    rw [← Device.placedAddresses_requests, ← PlannedDevice.requests, split,
      placedAddresses_append]
    rfl
  obtain ⟨own, asks⟩ : ∃ own, planned.device.slotAddress? planned.transport = some own := by
    refine Option.ne_none_iff_exists'.mp fun none => ?_
    simp [none] at placed
  rw [asks, Option.toList_some] at placed
  obtain ⟨earlier, rfl⟩ : placedAddresses before = [] ∧ address = own := by
    cases first : placedAddresses before with
    | nil =>
        rw [first] at placed
        exact ⟨rfl, (List.cons.inj placed).1.symm⟩
    | cons other more => simp [first] at placed
  have unclaimed : claimedSlots before = [] := by
    have all : claimedSlots planned.requests = [] :=
      (Device.slots_requests_of_slotAddress? asks).1
    rw [split, claimedSlots_append] at all
    exact (List.append_eq_nil_iff.mp all).1
  rw [granted.bus_eq unclaimed earlier] at used
  exact ⟨address, asks, asked, used⟩

/-- A collision happens at a device, behind all reservations: a migration is refused nothing. -/
theorem Config.refused_plan_of_collision {policy : CollisionPolicy} {config : Config} {host : Host}
    {slot : Nat} {final : RunState}
    (h : Refused (RunState.initial policy) (config.requests host) (.collision slot) final)
    : ∃ reservations reserved,
        Granted (RunState.initial policy) config.reserveRequests reservations reserved
        ∧ Refused reserved ((config.plan host).flatMap PlannedDevice.requests)
            (.collision slot) final := by
  rcases Refused.split h with repeated | ⟨reservations, reserved, reserving, behind⟩
  · obtain ⟨_, other, _⟩ := refused_reserves_iff.mp ⟨final, repeated⟩
    cases other
  · rcases Refused.split behind with refused | ⟨_, _, _, migration⟩
    · exact ⟨reservations, reserved, reserving, refused⟩
    · obtain ⟨request, member, refusal⟩ := migration.exists_mem_refusal
      cases refusal with
      | @collision address =>
          have placed : address ∈ placedAddresses config.incoming.requests :=
            List.mem_filterMap.mpr ⟨_, member, rfl⟩
          rw [(slots_incoming _).2] at placed
          cases placed

-----------------------------------------------------------------------------------------
-- Who holds an occupied slot
-----------------------------------------------------------------------------------------

/-- Under the strict policy a step that is granted a slot either names it or takes it automatically,
by whether its address asks for a slot.
-/
theorem RenderStep.named_or_automatic {step : RenderStep} {own : List Grant} {slot : Nat}
    (granted : Granted step.before step.planned.requests own step.after)
    (strict : step.before.bus.policy = .strict) (given : step.slot? = some slot)
    : step.planned.device.namedSlot? = some slot ∨ step.TakesAutomatically slot := by
  obtain ⟨address, asks, _⟩ := Option.bind_eq_some_iff.mp given
  obtain ⟨allocated, placed, _, recorded⟩ := step.allocate_of_granted granted asks
  obtain rfl := Option.some.inj (given.symm.trans recorded)
  by_cases asked : ∃ wanted, AsksFor address wanted
  · obtain ⟨wanted, asked⟩ := asked
    obtain rfl := RootBus.eq_of_asksFor strict asked placed
    exact Or.inl ((Device.namedSlot?_of_slotAddress? asks).trans asked.1)
  · have none := not_exists.mp asked
    rw [RootBus.allocate_of_unasked none] at placed
    refine Or.inr ⟨given, (RootBus.allocateAutomatic_ok placed).2.1.1, ?_⟩
    intro other same
    obtain rfl := Option.some.inj (asks.symm.trans same)
    exact none

/-- Under the strict policy a step that occupies a slot either names it or takes it automatically,
by what the device is granted: nothing else occupies slots.
-/
theorem RenderStep.Occupies.named_or_automatic {step : RenderStep} {slot : Nat}
    (occupies : step.Occupies slot) {own : List Grant}
    (granted : Granted step.before step.planned.requests own step.after)
    (strict : step.before.bus.policy = .strict) (positive : 1 ≤ slot)
    : step.planned.device.namedSlot? = some slot ∨ step.TakesAutomatically slot := by
  rcases (granted.isUsed_iff slot).mp occupies.used with early | claimed | given
  · exact absurd early (by simp [occupies.free])
  · rw [PlannedDevice.requests, Device.claimedSlots_requests] at claimed
    exact Or.inl (Device.namedSlot?_of_rootSlot? (Option.mem_toList.mp claimed) positive)
  · rw [← step.slot?_of_granted granted] at given
    exact step.named_or_automatic granted strict (Option.mem_toList.mp given)

namespace PlanGranted
variable {state middle : RunState} {before : List PlannedDevice} {grants : List (List Grant)}

/-- A slot that is free before the devices of a plan and occupied behind them is occupied at a step
of one of them, by induction on the plan.
-/
theorem exists_occupies (h : PlanGranted state before grants middle) {slot : Nat}
    (free : state.bus.isUsed slot = false) (used : middle.bus.isUsed slot = true)
    (architecture : Architecture) (iommuPlatform : Bool)
    : ∃ step ∈ renderSteps architecture iommuPlatform state before, step.Occupies slot := by
  induction h with
  | nil => exact absurd used (by simp [free])
  | @cons state next final planned rest grants more first later ih =>
      rw [renderSteps_cons first]
      cases own : next.bus.isUsed slot with
      | true => exact ⟨_, List.mem_cons_self, free, own⟩
      | false =>
          obtain ⟨step, member, occupies⟩ := ih own used
          exact ⟨step, List.mem_cons_of_mem _ member, occupies⟩

/-- The last step of a plan ends in the state behind the plan, by induction on the plan. -/
theorem after_getLast? (h : PlanGranted state before grants middle) (architecture : Architecture)
    (iommuPlatform : Bool)
    : ∀ last ∈ (renderSteps architecture iommuPlatform state before).getLast?,
        last.after = middle := by
  induction h with
  | nil =>
      intro last member
      cases member
  | @cons state next final planned rest grants more first later ih =>
      rw [renderSteps_cons first]
      cases later with
      | nil =>
          rintro last ⟨⟩
          rfl
      | cons second behind =>
          rw [renderSteps_cons second] at ih ⊢
          rw [List.getLast?_cons_cons]
          exact ih

end PlanGranted

theorem Config.mem_claimants {config : Config} {host : Host} {planned : PlannedDevice} {slot : Nat}
    (member : planned ∈ config.plan host) (named : planned.device.namedSlot? = some slot)
    : planned.device ∈ config.claimants slot := by
  refine List.mem_filter.mpr ⟨?_, by simp [named]⟩
  rw [← config.map_device_plan host]
  exact List.mem_map_of_mem member

/-- Two devices at different places of a plan that name a slot are two claimants. -/
theorem Config.two_le_claimants {config : Config} {host : Host} {slot : Nat}
    {before after : List PlannedDevice} {failing : PlannedDevice}
    (plan : config.plan host = before ++ failing :: after)
    (earlier : ∃ planned ∈ before, planned.device.namedSlot? = some slot)
    (own : failing.device.namedSlot? = some slot)
    : 2 ≤ (config.claimants slot).length := by
  obtain ⟨planned, member, named⟩ := earlier
  let names (device : Device) : Bool := device.namedSlot? == some slot
  have first : 0 < ((before.map PlannedDevice.device).filter names).length :=
    List.length_pos_of_mem
      (List.mem_filter.mpr ⟨List.mem_map_of_mem member, by simp [names, named]⟩)
  have last : names failing.device = true := by simp [names, own]
  have split : config.claimants slot
      = (before.map PlannedDevice.device).filter names
        ++ failing.device :: (after.map PlannedDevice.device).filter names := by
    rw [claimants, ← config.map_device_plan host, plan, List.map_append, List.map_cons,
      List.filter_append, List.filter_cons_of_pos last]
  rw [split, List.length_append, List.length_cons]
  omega

/-- A collision is explained by the device at which the assembly stops and by an earlier one that
has its slot.
-/
theorem collisionExplained_of_build {settings : BuildSettings} {config : Config} {slot : Nat}
    (failed : (build settings config).outcome = .error (.allocation (.collision slot)))
    : CollisionExplained settings config slot := by
  obtain ⟨_, final, refused⟩ := build_error_iff.mp failed
  have policy : settings.policy = .strict := refused.strict_of_collision
  obtain ⟨reservations, reserved, reserving, refused⟩ := Config.refused_plan_of_collision refused
  obtain ⟨before, failing, after, grants, middle, plan, granted, refused⟩ := refused.exists_planned
  obtain ⟨address, asks, asked, used⟩ := refused.asksFor_of_collision
  have steps : deviceSteps settings config
      = renderSteps settings.architecture config.knobs.iommuPlatform reserved before := by
    rw [deviceSteps_of_reserved reserving, plan, granted.renderSteps_of_refused refused]
  have named : failing.device.namedSlot? = some slot :=
    (Device.namedSlot?_of_slotAddress? asks).trans asked.1
  have free : reserved.bus.isUsed slot = false := by
    obtain ⟨unclaimed, unplaced⟩ := config.slots_reserveRequests
    rw [reserving.bus_eq unclaimed unplaced]
    exact RootBus.isUsed_empty settings.policy slot
  obtain ⟨step, member, occupies⟩ := granted.exists_occupies free used settings.architecture
    config.knobs.iommuPlatform
  constructor
  case policy => exact policy
  case failing =>
    refine ⟨failing, after, address, ?_, asks, asked, ?_⟩
    · rw [steps, granted.steps_planned, plan]
    · have listed : failing ∈ config.plan (settings.host config) := by
        rw [plan]
        exact List.mem_append_right _ List.mem_cons_self
      exact Config.mem_claimants listed named
  case range => exact asked.2
  case occupied =>
    rw [steps]
    have some := mt List.getLast?_eq_none_iff.mp (List.ne_nil_of_mem member)
    obtain ⟨last, found⟩ := Option.ne_none_iff_exists'.mp some
    refine ⟨last, found, ?_⟩
    rw [granted.after_getLast? _ _ last found]
    exact used
  case holder =>
    obtain ⟨own, answered, _⟩ := granted.steps_granted _ _ step member
    have strict : step.before.bus.policy = .strict :=
      (granted.steps_policy _ _ step member).trans (reserving.policy_eq.trans policy)
    have listed : step.planned ∈ before := by
      rw [← granted.steps_planned settings.architecture config.knobs.iommuPlatform]
      exact List.mem_map_of_mem member
    rw [steps]
    refine ⟨step, member, occupies, ?_⟩
    exact (occupies.named_or_automatic answered strict asked.2.1).imp_left fun earlier =>
      ⟨earlier, Config.two_le_claimants plan ⟨step.planned, listed, earlier⟩ named⟩

/-- The collision of the guest with one claimant is explained: the controller took the slot. -/
theorem collisionExplained_lateAddressGuest
    : (build {} lateAddressGuest).outcome = .error (.allocation (.collision 30))
      ∧ CollisionExplained {} lateAddressGuest 30 := by
  have collides : (build {} lateAddressGuest).outcome = .error (.allocation (.collision 30)) := by
    decide +kernel
  exact ⟨collides, collisionExplained_of_build collides⟩

end GuestLaunch
