import GuestLaunch.Proofs.Resources.AssemblyRun

/-!
The isolation of the device stage. Of the host and of the settings around them, the devices see two
things only: the transport of those that name none, and the knob for the platform IOMMU. Assemblies
that agree on these go through the same device stage for the same devices, whatever the stages
before it have rendered.
-/

namespace GuestLaunch

/-- An assembly up to the end of its device stage: the explicit boot indices are recorded, and the
stages are rendered in their order, the devices last. It gives the options of the devices or the
cause of a failure, and the state in which it ends in either case.
-/
def deviceStage (settings : BuildSettings) (config : Config)
    : Except AllocationError (List (List LaunchOption)) × RunState :=
  let host := settings.host config
  let steps : Render (List (List LaunchOption)) := do
    reserveBootIndices config.devices
    let _ ← stagesBeforeDevices.mapM (Stage.render config host)
    Stage.devices.render config host
  steps.run (RunState.initial settings.policy)

/-- Two assemblies agree on all that devices may depend on. -/
structure AgreeOnDevices (settings other : BuildSettings) (config further : Config) : Prop where
  devices : ∀ category : Category, category.devices config = category.devices further
  policy : settings.policy = other.policy
  transport
    : (settings.host config).defaultTransport = (other.host further).defaultTransport
  iommuPlatform : config.knobs.iommuPlatform = further.knobs.iommuPlatform

/-- What an assembly makes of its device stage. -/
structure PassesDeviceStage (settings : BuildSettings) (config : Config) : Prop where
  /-- The options of the devices are one part of what is rendered, and missing where they fail. -/
  options
    : (renderAll settings config).groups.lookup .devices
      = (deviceStage settings config).1.toOption
  /-- The assembly fails exactly if its device stage does, and for the same cause. -/
  failure
    : ∀ cause,
        (build settings config).outcome = .error (.allocation cause)
          ↔ (deviceStage settings config).1 = .error cause
  /-- The stages behind the devices add no more than descriptors. -/
  final
    : ∀ final,
        (renderAll settings config).outcome = .ok final
        → final.bus = (deviceStage settings config).2.bus
          ∧ final.indices = (deviceStage settings config).2.indices
          ∧ (deviceStage settings config).2.descriptors <+: final.descriptors

/-- Two assemblies treat their devices alike. -/
structure TreatDevicesAlike (settings other : BuildSettings) (config further : Config)
    : Prop where
  plan : config.plan (settings.host config) = further.plan (other.host further)
  /-- Recording the boot indices has the same result, and leaves the same state. -/
  reserved
    : (reserveBootIndices config.devices).run (RunState.initial settings.policy)
      = (reserveBootIndices further.devices).run (RunState.initial other.policy)
  /-- The same options or the same cause of a failure, and the same slots, boot indices and
  descriptors in use.
  -/
  stage : deviceStage settings config = deviceStage other further
  passes : PassesDeviceStage settings config
  further_passes : PassesDeviceStage other further

-----------------------------------------------------------------------------------------
-- Devices without a view of the architecture
-----------------------------------------------------------------------------------------

/-- A device in a category of a configuration is no trusted platform module, by the category. -/
theorem Config.ne_tpm_of_mem {config : Config} {device : Device}
    (member : device ∈ config.devices) (tpm : Tpm)
    : device ≠ .tpm tpm := by
  obtain ⟨category, _, own⟩ := List.mem_flatMap.mp member
  cases category
  all_goals
    obtain ⟨_, _, rfl⟩ := List.mem_map.mp own
    intro same
    cases same

/-- The architecture reaches trusted platform modules and no other device, by the kind of the
device.
-/
theorem Device.render_architecture {device : Device} (plain : ∀ tpm, device ≠ .tpm tpm)
    (placement : Placement) (architecture further : Architecture)
    : device.render placement architecture = device.render placement further := by
  cases device
  case tpm tpm => exact absurd rfl (plain tpm)
  all_goals rfl

/-- A plan without trusted platform modules is rendered alike on all architectures, by induction on
the plan.
-/
theorem renderPlan_architecture {plan : List PlannedDevice}
    (plain : ∀ planned ∈ plan, ∀ tpm, planned.device ≠ .tpm tpm) (iommuPlatform : Bool)
    (architecture further : Architecture)
    : renderPlan architecture iommuPlatform plan = renderPlan further iommuPlatform plan := by
  induction plan with
  | nil => rfl
  | cons planned rest ih =>
      have first := Device.render_architecture (plain planned List.mem_cons_self)
        (planned.placement iommuPlatform) architecture further
      rw [PlannedDevice.placement] at first
      rw [renderPlan, renderPlan, first,
        ih fun later member => plain later (List.mem_cons_of_mem _ member)]

-----------------------------------------------------------------------------------------
-- The device stage behind the stages before it
-----------------------------------------------------------------------------------------

/-- Stages that use up nothing are rendered without a failure and leave the state as it is, by
induction on the stages.
-/
theorem mapM_render_settings (stages : List Stage)
    (plain : ∀ stage ∈ stages, stage.isSettings = true)
    (config : Config) (host : Host) (state : RunState)
    : (stages.mapM (Stage.render config host)).run state
      = (.ok (stages.map fun stage => [stage.settings config host]), state) := by
  induction stages with
  | nil => rfl
  | cons stage rest ih =>
      have first := Stage.render_settings (plain stage List.mem_cons_self) config host state
      have later := ih fun other member => plain other (List.mem_cons_of_mem _ member)
      rw [List.mapM_cons, Render.run_bind, first]
      simp only [Render.run_bind, later, Render.run_pure, List.map_cons]

/-- The device stage renders the plan in the state in which the boot indices have been recorded:
the stages before it leave that state as it is.
-/
theorem deviceStage_eq (settings : BuildSettings) (config : Config)
    : deviceStage settings config
      = match (reserveBootIndices config.devices).run (RunState.initial settings.policy) with
        | (.error cause, state) => (.error cause, state)
        | (.ok (), state) =>
            (renderPlan settings.architecture config.knobs.iommuPlatform
              (config.plan (settings.host config))).run state := by
  rw [deviceStage, Render.run_bind]
  cases recorded : (reserveBootIndices config.devices).run
      (RunState.initial settings.policy) with
  | mk result state =>
      cases result with
      | error cause => rfl
      | ok =>
          simp only [Render.run_bind,
            mapM_render_settings stagesBeforeDevices (by decide)]
          rfl

/-- Rendering an incoming migration never fails, and adds descriptors at most, by its source. -/
theorem Migration.render_extends (source : Migration) (state : RunState)
    : ∃ options final,
        source.render.run state = (.ok options, final)
        ∧ final.bus = state.bus
        ∧ final.indices = state.indices
        ∧ state.descriptors <+: final.descriptors := by
  cases source with
  | absent | command | deferred => exact ⟨_, state, rfl, rfl, rfl, List.prefix_refl _⟩
  | descriptor host => exact ⟨_, _, rfl, rfl, rfl, List.prefix_append _ _⟩

/-- Where the devices fail, a run of all stages fails for the same cause and has no options of
devices.
-/
theorem runStages_of_devices_error {config : Config} {host : Host} {state next : RunState}
    {cause : AllocationError}
    (devices : (Stage.devices.render config host).run state = (.error cause, next))
    : (runStages config host state Stage.all).groups.lookup .devices = none
      ∧ (runStages config host state Stage.all).outcome = .error cause := by
  let behind := stagesBeforeIncoming ++ .incoming :: (stagesAfterIncoming ++ [])
  obtain ⟨groups, outcome⟩ := runStages_settings stagesBeforeDevices (by decide) config host
    state (.devices :: behind)
  have ended : (runStages config host state (.devices :: behind)).groups = [] := by
    simp only [runStages, devices]
  rw [stages_all, groups, outcome, ended]
  exact ⟨rfl, runStages_error devices behind⟩

/-- Where the devices succeed, a run of all stages succeeds and has their options; the stages behind
them do not fail, and add no more than descriptors.
-/
theorem runStages_of_devices_ok {config : Config} {host : Host} {state next : RunState}
    {options : List (List LaunchOption)}
    (devices : (Stage.devices.render config host).run state = (.ok options, next))
    : (runStages config host state Stage.all).groups.lookup .devices = some options
      ∧ ∃ final,
          (runStages config host state Stage.all).outcome = .ok final
          ∧ final.bus = next.bus
          ∧ final.indices = next.indices
          ∧ next.descriptors <+: final.descriptors := by
  let behind := stagesBeforeIncoming ++ .incoming :: (stagesAfterIncoming ++ [])
  obtain ⟨before_groups, before⟩ := runStages_settings stagesBeforeDevices (by decide) config
    host state (.devices :: behind)
  obtain ⟨groups, own⟩ := runStages_ok devices behind
  obtain ⟨_, between⟩ := runStages_settings stagesBeforeIncoming (by decide) config host next
    (.incoming :: (stagesAfterIncoming ++ []))
  obtain ⟨uri, final, source, kept⟩ := config.incoming.render_extends next
  have migration : (Stage.incoming.render config host).run next = (.ok [uri], final) := by
    simp only [Stage.render, Render.run_bind, source, Render.run_pure]
  obtain ⟨_, incoming⟩ := runStages_ok migration (stagesAfterIncoming ++ [])
  obtain ⟨_, after⟩ := runStages_settings stagesAfterIncoming (by decide) config host final []
  rw [stages_all]
  refine ⟨?_, final, ?_, kept⟩
  · rw [before_groups, groups]
    rfl
  · rw [before, own, between, incoming, after]
    rfl

-----------------------------------------------------------------------------------------
-- Assemblies
-----------------------------------------------------------------------------------------

/-- A valid configuration fails to be assembled for the causes for which its stages fail. -/
theorem build_allocation_iff {settings : BuildSettings} {config : Config}
    (valid : config.problems = []) {cause : AllocationError}
    : (build settings config).outcome = .error (.allocation cause)
      ↔ (renderAll settings config).outcome = .error cause := by
  simp only [build, Config.validate, valid]
  cases (renderAll settings config).outcome <;> simp

/-- A device stage that fails, be it while the boot indices are recorded or later, leaves nothing of
the devices and ends the assembly.
-/
theorem renderAll_of_error {settings : BuildSettings} {config : Config} {next : RunState}
    {cause : AllocationError} (failed : deviceStage settings config = (.error cause, next))
    : (renderAll settings config).groups.lookup .devices = none
      ∧ (renderAll settings config).outcome = .error cause := by
  rw [deviceStage_eq] at failed
  rw [renderAll]
  cases recorded : (reserveBootIndices config.devices).run
      (RunState.initial settings.policy) with
  | mk result state =>
      rw [recorded] at failed
      cases result with
      | error own =>
          cases failed
          exact ⟨rfl, rfl⟩
      | ok => exact runStages_of_devices_error failed

/-- A device stage that succeeds has recorded the boot indices, and the assembly has its options. -/
theorem renderAll_of_ok {settings : BuildSettings} {config : Config} {next : RunState}
    {options : List (List LaunchOption)}
    (rendered : deviceStage settings config = (.ok options, next))
    : (renderAll settings config).groups.lookup .devices = some options
      ∧ ∃ final,
          (renderAll settings config).outcome = .ok final
          ∧ final.bus = next.bus
          ∧ final.indices = next.indices
          ∧ next.descriptors <+: final.descriptors := by
  rw [deviceStage_eq] at rendered
  rw [renderAll]
  cases recorded : (reserveBootIndices config.devices).run
      (RunState.initial settings.policy) with
  | mk result state =>
      rw [recorded] at rendered
      cases result with
      | error own => cases rendered
      | ok => exact runStages_of_devices_ok rendered

/-- A valid configuration passes through its device stage: nothing else that is rendered can fail,
and nothing behind it changes what the devices have taken.
-/
theorem Config.passesDeviceStage {config : Config} (valid : config.problems = [])
    (settings : BuildSettings)
    : PassesDeviceStage settings config := by
  cases stage : deviceStage settings config with
  | mk result next =>
      cases result with
      | error cause =>
          obtain ⟨options, outcome⟩ := renderAll_of_error stage
          constructor
          case options =>
            rw [options, stage]
            rfl
          case failure =>
            intro other
            rw [build_allocation_iff valid, outcome, stage]
            simp
          case final =>
            intro final succeeded
            cases outcome.symm.trans succeeded
      | ok groups =>
          obtain ⟨options, last, outcome, kept⟩ := renderAll_of_ok stage
          constructor
          case options =>
            rw [options, stage]
            rfl
          case failure =>
            intro other
            rw [build_allocation_iff valid, outcome, stage]
            simp
          case final =>
            intro final succeeded
            obtain rfl := Except.ok.inj (outcome.symm.trans succeeded)
            rw [stage]
            exact kept

namespace AgreeOnDevices
variable {settings other : BuildSettings} {config further : Config}

theorem devices_eq (agree : AgreeOnDevices settings other config further)
    : config.devices = further.devices :=
  congrArg Category.all.flatMap (funext agree.devices)

/-- The plans agree, because a device that names no transport takes the default one. -/
theorem plan_eq (agree : AgreeOnDevices settings other config further)
    : config.plan (settings.host config) = further.plan (other.host further) := by
  have planned : PlannedDevice.of (settings.host config)
      = PlannedDevice.of (other.host further) := by
    funext device
    simp only [PlannedDevice.of, Host.resolveTransport, agree.transport]
  rw [Config.plan, Config.plan, agree.devices_eq, planned]

/-- The plan is rendered alike, because none of its devices has a view of the architecture. -/
theorem renderPlan_eq (agree : AgreeOnDevices settings other config further)
    : renderPlan settings.architecture config.knobs.iommuPlatform
          (config.plan (settings.host config))
      = renderPlan other.architecture further.knobs.iommuPlatform
          (further.plan (other.host further)) := by
  rw [agree.plan_eq, agree.iommuPlatform]
  refine renderPlan_architecture (fun planned member => ?_) _ _ _
  obtain ⟨device, listed, rfl⟩ := List.mem_map.mp member
  exact Config.ne_tpm_of_mem listed

end AgreeOnDevices

/-- Assemblies of valid configurations with the same devices treat them alike, if they have the same
policy, the same default transport and the same knob for the platform IOMMU, whatever else is
configured.
-/
theorem devices_isolated {settings other : BuildSettings} {config further : Config}
    (valid : config.problems = []) (further_valid : further.problems = [])
    (agree : AgreeOnDevices settings other config further)
    : TreatDevicesAlike settings other config further := by
  have reserved : (reserveBootIndices config.devices).run (RunState.initial settings.policy)
      = (reserveBootIndices further.devices).run (RunState.initial other.policy) := by
    rw [agree.devices_eq, agree.policy]
  constructor
  case plan => exact agree.plan_eq
  case reserved => exact reserved
  case stage => rw [deviceStage_eq, deviceStage_eq, reserved, agree.renderPlan_eq]
  case passes => exact config.passesDeviceStage valid settings
  case further_passes => exact further.passesDeviceStage further_valid other

/-- A guest with devices that take slots, boot indices and descriptors. -/
def workerGuest : Config where
  rootPorts := [{ id := "rp0", address := "0x5.0x0", multifunction := true }]
  scsiControllers := [{ id := "scsi0" }]
  disks :=
    [{ id := "d0", driver := "virtio-blk", file := "a.img", interface := "none",
       format := "raw", bootIndex := some "auto" }]
  netDevices :=
    [{ type := .macvtap, id := "n0", driver := "virtio-net", queues := [7, 8],
       bootIndex := some "2" }]
  entropySources := [{ id := "rng0", driver := "virtio-rng", transport := some .ccw }]
  machine := { type := "q35" }

/-- The same devices beside a display, a trusted platform module and settings of its own. -/
def furnishedGuest : Config :=
  { workerGuest with
    name := "furnished"
    machine := { type := "virt", acceleration := "kvm" }
    spice := some { id := "s0", port := "5900" }
    tpm := some { id := "tpm0", driver := "tpm-tis", type := "emulator", path := "/run/tpm" }
    memory := { size := "4G" }
    knobs := { noDefaults := true, hugePages := true }
    incoming := .descriptor 9 }

/-- The two guests differ in their architectures, too, and their devices are treated alike. -/
theorem devices_isolated_furnishedGuest
    : workerGuest.problems = []
      ∧ furnishedGuest.problems = []
      ∧ AgreeOnDevices {} { architecture := .aarch64 } workerGuest furnishedGuest
      ∧ TreatDevicesAlike {} { architecture := .aarch64 } workerGuest furnishedGuest := by
  have plain : workerGuest.problems = [] := by decide +kernel
  have furnished : furnishedGuest.problems = [] := by decide +kernel
  have agree : AgreeOnDevices {} { architecture := .aarch64 } workerGuest furnishedGuest := by
    constructor
    case devices =>
      intro category
      cases category <;> rfl
    case policy => rfl
    case transport => decide +kernel
    case iommuPlatform => rfl
  exact ⟨plain, furnished, agree, devices_isolated plain furnished agree⟩

end GuestLaunch
