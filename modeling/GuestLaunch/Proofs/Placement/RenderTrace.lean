import GuestLaunch.Proofs.Placement.DeviceSlots

/-!
The trace of the devices in an assembly: each device with the state before it is rendered, its
options, and the state after it.
-/

namespace GuestLaunch

/-- One device of a plan as it is rendered. -/
structure RenderStep where
  planned : PlannedDevice
  before : RunState
  options : List LaunchOption
  after : RunState

/-- The slot that a step is allocated: the one that the bus of the state before it gives for
the address of the device, if the device is one that asks for a slot.
-/
def RenderStep.slot? (step : RenderStep) : Option Nat :=
  (step.planned.device.slotAddress? step.planned.transport).bind fun address =>
    (step.before.bus.allocate address).toOption.map Prod.fst

/-- The device of a step with the slot that it is allocated. -/
def RenderStep.placement? (step : RenderStep) : Option (Device × Nat) :=
  step.slot?.map fun slot => (step.planned.device, slot)

/-- Renders the devices of a plan step by step, up to the first that fails. -/
def renderSteps (architecture : Architecture) (iommuPlatform : Bool) (state : RunState)
    : List PlannedDevice → List RenderStep
  | [] => []
  | planned :: rest =>
      match (planned.device.render (planned.placement iommuPlatform) architecture).run
          state with
      | (.error _, _) => []
      | (.ok options, after) =>
          { planned, before := state, options, after }
            :: renderSteps architecture iommuPlatform after rest

/-- The steps of the devices in an assembly, which begin once the explicit boot indices have
been recorded.
-/
def deviceSteps (settings : BuildSettings) (config : Config) : List RenderStep :=
  match (reserveBootIndices config.devices).run (RunState.initial settings.policy) with
  | (.error _, _) => []
  | (.ok (), state) =>
      renderSteps settings.architecture config.knobs.iommuPlatform state
        (config.plan (settings.host config))

-----------------------------------------------------------------------------------------
-- Traces of plans that are granted
-----------------------------------------------------------------------------------------

/-- A device that is granted what it asks for adds one step to the trace. -/
theorem renderSteps_cons {state next : RunState} {planned : PlannedDevice}
    {grants : List Grant} (first : Granted state planned.requests grants next)
    (architecture : Architecture) (iommuPlatform : Bool) (rest : List PlannedDevice)
    : renderSteps architecture iommuPlatform state (planned :: rest)
      = { planned
          before := state
          options :=
            planned.device.optionsFor (planned.placement iommuPlatform) architecture grants
          after := next }
        :: renderSteps architecture iommuPlatform next rest := by
  simp only [renderSteps, first.render architecture iommuPlatform]

/-- A step whose device asks for a slot allocates it for the address of the device, and nothing
else changes the bus.
-/
theorem RenderStep.allocate_of_granted (step : RenderStep) {grants : List Grant}
    (h : Granted step.before step.planned.requests grants step.after) {address : String}
    (asks : step.planned.device.slotAddress? step.planned.transport = some address)
    : ∃ slot,
        step.before.bus.allocate address = .ok (slot, step.after.bus)
        ∧ grantedSlots grants = [slot]
        ∧ step.slot? = some slot := by
  obtain ⟨slot, allocated, granted⟩ := Granted.allocate_of_slotAddress? h asks
  refine ⟨slot, allocated, granted, ?_⟩
  rw [slot?, asks, Option.bind_some, allocated]
  rfl

/-- The slot of a step is the one that is granted to its device. -/
theorem RenderStep.slot?_of_granted (step : RenderStep) {grants : List Grant}
    (h : Granted step.before step.planned.requests grants step.after)
    : step.slot?.toList = grantedSlots grants := by
  cases asks : step.planned.device.slotAddress? step.planned.transport with
  | none =>
      have unplaced : placedAddresses step.planned.requests = [] := by
        rw [PlannedDevice.requests, Device.placedAddresses_requests, asks]
        rfl
      rw [h.slots_eq_nil unplaced, slot?, asks]
      rfl
  | some address =>
      obtain ⟨slot, _, granted, own⟩ := step.allocate_of_granted h asks
      rw [granted, own]
      rfl

namespace PlanGranted
variable {state final : RunState} {plan : List PlannedDevice} {grants : List (List Grant)}

/-- Behind a part of a plan that is granted, the trace goes on in the state after that part, by
induction on the part.
-/
theorem renderSteps_append (h : PlanGranted state plan grants final)
    (architecture : Architecture) (iommuPlatform : Bool) (rest : List PlannedDevice)
    : renderSteps architecture iommuPlatform state (plan ++ rest)
      = renderSteps architecture iommuPlatform state plan
        ++ renderSteps architecture iommuPlatform final rest := by
  induction h with
  | nil => rfl
  | cons first _ ih =>
      rw [List.cons_append, renderSteps_cons first, renderSteps_cons first, ih,
        List.cons_append]

/-- The trace of a plan that is granted goes through all its devices, by induction on the
plan.
-/
theorem steps_planned (h : PlanGranted state plan grants final)
    (architecture : Architecture) (iommuPlatform : Bool)
    : (renderSteps architecture iommuPlatform state plan).map RenderStep.planned
      = plan := by
  induction h with
  | nil => rfl
  | cons first _ ih =>
      rw [renderSteps_cons first, List.map_cons, ih]

/-- The options of the steps are those of the plan, by induction on the plan. -/
theorem steps_options (h : PlanGranted state plan grants final)
    (architecture : Architecture) (iommuPlatform : Bool)
    : (renderSteps architecture iommuPlatform state plan).map RenderStep.options
      = planOptions architecture iommuPlatform plan grants := by
  induction h with
  | nil => rfl
  | cons first _ ih =>
      rw [renderSteps_cons first, List.map_cons, ih]
      rfl

/-- Every step of the trace is granted what its device asks for, by induction on the plan. -/
theorem steps_granted (h : PlanGranted state plan grants final)
    (architecture : Architecture) (iommuPlatform : Bool)
    : ∀ step ∈ renderSteps architecture iommuPlatform state plan,
        ∃ own,
          Granted step.before step.planned.requests own step.after
          ∧ step.options
            = step.planned.device.optionsFor (step.planned.placement iommuPlatform)
                architecture own := by
  induction h with
  | nil =>
      intro step member
      cases member
  | cons first _ ih =>
      intro step member
      rw [renderSteps_cons first] at member
      rcases List.mem_cons.mp member with rfl | behind
      · exact ⟨_, first, rfl⟩
      · exact ih step behind

/-- The slots of the steps are those that are granted to the plan, by induction on the plan. -/
theorem steps_slots (h : PlanGranted state plan grants final)
    (architecture : Architecture) (iommuPlatform : Bool)
    : (renderSteps architecture iommuPlatform state plan).filterMap RenderStep.slot?
      = grantedSlots grants.flatten := by
  induction h with
  | nil => rfl
  | @cons state next final planned rest grants more first _ ih =>
      let step : RenderStep :=
        { planned
          before := state
          options :=
            planned.device.optionsFor (planned.placement iommuPlatform) architecture grants
          after := next }
      have head : step.slot?.toList = grantedSlots grants := step.slot?_of_granted first
      rw [renderSteps_cons first, List.flatten_cons, grantedSlots_append, ← ih, ← head]
      cases given : step.slot? with
      | none => rw [List.filterMap_cons_none given]; rfl
      | some slot => rw [List.filterMap_cons_some given]; rfl

end PlanGranted

/-- The devices of the plan are those of the configuration. -/
theorem Config.map_device_plan (config : Config) (host : Host)
    : (config.plan host).map PlannedDevice.device = config.devices := by
  rw [plan, List.map_map]
  exact List.map_id _

/-- The trace of an assembly begins in the state in which its boot indices have been recorded,
whatever becomes of its devices.
-/
theorem deviceSteps_of_reserved {settings : BuildSettings} {config : Config}
    {reservations : List Grant} {reserved : RunState}
    (reserving
      : Granted (RunState.initial settings.policy) config.reserveRequests reservations reserved)
    : deviceSteps settings config
      = renderSteps settings.architecture config.knobs.iommuPlatform reserved
          (config.plan (settings.host config)) := by
  simp only [deviceSteps, reserving.reserve_run]

namespace GrantedRun
variable {settings : BuildSettings} {config : Config}

theorem deviceSteps_eq (run : GrantedRun settings config)
    : deviceSteps settings config
      = renderSteps settings.architecture config.knobs.iommuPlatform run.reserved
          (config.plan (settings.host config)) :=
  deviceSteps_of_reserved run.reserve_granted

/-- The slots of the steps are all that the run grants: neither the boot indices nor the migration
is granted any.
-/
theorem slots_eq (run : GrantedRun settings config)
    : (deviceSteps settings config).filterMap RenderStep.slot?
      = grantedSlots (run.reservations ++ (run.grants.flatten ++ run.incoming)) := by
  have reserved := run.reserve_granted.slots_eq_nil config.slots_reserveRequests.2
  have incoming := run.incoming_granted.slots_eq_nil (Config.slots_incoming _).2
  rw [run.deviceSteps_eq, run.devices_granted.steps_slots, grantedSlots_append,
    grantedSlots_append, reserved, incoming, List.nil_append, List.append_nil]

/-- Every step of an assembly is granted what its device asks for, and emits the options of its
device.
-/
theorem step_granted (run : GrantedRun settings config) {step : RenderStep}
    (member : step ∈ deviceSteps settings config)
    : ∃ own,
        Granted step.before step.planned.requests own step.after
        ∧ step.options
          = step.planned.device.optionsFor
              (step.planned.placement config.knobs.iommuPlatform) settings.architecture own := by
  rw [run.deviceSteps_eq] at member
  exact run.devices_granted.steps_granted _ _ step member

/-- The parts of the device stage are the options of its steps. -/
theorem groups_devices (run : GrantedRun settings config)
    : run.groups .devices = (deviceSteps settings config).map RenderStep.options := by
  rw [run.deviceSteps_eq, run.devices_granted.steps_options]
  rfl

/-- The options of the devices in an assembly are those of its steps. -/
theorem options_devices (run : GrantedRun settings config)
    : (run.groups .devices).flatten
      = (deviceSteps settings config).flatMap RenderStep.options := by
  rw [List.flatMap_def, run.groups_devices]

/-- The steps of an assembly go through its plan. -/
theorem steps_planned (run : GrantedRun settings config)
    : (deviceSteps settings config).map RenderStep.planned
      = config.plan (settings.host config) := by
  rw [run.deviceSteps_eq]
  exact run.devices_granted.steps_planned settings.architecture config.knobs.iommuPlatform

/-- The steps of an assembly go through all devices, category by category. -/
theorem steps_devices (run : GrantedRun settings config)
    : (deviceSteps settings config).map (fun step => step.planned.device)
      = config.devices := by
  calc (deviceSteps settings config).map (fun step => step.planned.device)
      = ((deviceSteps settings config).map RenderStep.planned).map PlannedDevice.device := by
        rw [List.map_map]
        rfl
    _ = config.devices := by
        rw [run.steps_planned, config.map_device_plan]

theorem device_mem_devices (run : GrantedRun settings config) {step : RenderStep}
    (member : step ∈ deviceSteps settings config)
    : step.planned.device ∈ config.devices := by
  rw [← run.steps_devices]
  exact List.mem_map_of_mem member

/-- What holds of the options of all stages, of all steps and of the migration holds of all options
of an assembly.
-/
theorem forall_mem_options (run : GrantedRun settings config) {property : LaunchOption → Prop}
    (ofStage
      : ∀ stage, ∀ option ∈ Stage.settings config (settings.host config) stage, property option)
    (ofStep : ∀ step ∈ deviceSteps settings config, ∀ option ∈ step.options, property option)
    (ofMigration : ∀ option ∈ config.incoming.optionsFor run.incoming, property option)
    : ∀ option ∈ run.invocation.options, property option := by
  have stages (list : List Stage)
      : ∀ option ∈ list.flatMap (Stage.settings config (settings.host config)),
          property option :=
    List.forall_mem_flatMap.mpr fun stage _ => ofStage stage
  rw [run.options_eq, run.options_devices]
  simp only [List.forall_mem_append]
  exact ⟨⟨⟨⟨stages _, List.forall_mem_flatMap.mpr ofStep⟩, stages _⟩, ofMigration⟩, stages _⟩

/-- A stage other than that of the devices has one part, by the stage. -/
theorem exists_groups_eq (run : GrantedRun settings config) {stage : Stage}
    (other : stage ≠ .devices)
    : ∃ part, run.groups stage = [part] := by
  cases stage
  case devices => exact absurd rfl other
  all_goals exact ⟨_, rfl⟩

end GrantedRun

end GuestLaunch
