import GuestLaunch.Assembly.Build
import GuestLaunch.Proofs.Resources.PlanRequests

/-!
The run of an assembly. A valid configuration asks for its explicit boot indices, then for what
its devices need, and last for the descriptor of an incoming migration. The assembly succeeds
exactly if all of this is granted, and fails with the cause of the first refusal otherwise.
-/

namespace GuestLaunch

-----------------------------------------------------------------------------------------
-- Incoming migration
-----------------------------------------------------------------------------------------

namespace Migration

def descriptorKey : String := "fd"

def requests : Migration → List Request
  | descriptor host => [.inherit descriptorKey [host]]
  | _ => []

def uriFor? (source : Migration) (grants : List Grant) : Option String :=
  match source with
  | absent => none
  | command line => some ("exec:" ++ line)
  | deferred => some "defer"
  | descriptor _ =>
      some
        ("fd:" ++ Text.decimal (((numbersIn? descriptorKey grants).getD []).headD 0))

def optionsFor (source : Migration) (grants : List Grant) : List LaunchOption :=
  match source.uriFor? grants with
  | none => []
  | some uri => [.toggle .stopped, .value .incoming uri]

theorem render_eq (source : Migration)
    : source.render = source.optionsFor <$> serveAll source.requests := by
  cases source with
  | absent | command | deferred => rfl
  | descriptor host =>
      simp [render, optionsFor, uriFor?, requests, serveAll, Request.serve_inherit]

end Migration

-----------------------------------------------------------------------------------------
-- Stages
-----------------------------------------------------------------------------------------

namespace Stage

/-- Whether a stage uses up nothing, which all but two do. -/
def isSettings : Stage → Bool
  | devices | incoming => false
  | _ => true

/-- The options of a stage in their groups, once the devices and the migration have been
granted what they ask for.
-/
def groupsFor (config : Config) (host : Host) (grants : List (List Grant))
    (incomingGrants : List Grant) : Stage → List (List LaunchOption)
  | devices =>
      planOptions host.architecture config.knobs.iommuPlatform (config.plan host) grants
  | incoming => [config.incoming.optionsFor incomingGrants]
  | stage => [stage.settings config host]

/-- A stage that uses up nothing renders its settings and leaves the state as it is. -/
theorem render_settings {stage : Stage} (plain : stage.isSettings = true)
    (config : Config) (host : Host) (state : RunState)
    : (stage.render config host).run state = (.ok [stage.settings config host], state) := by
  cases stage
  case devices | incoming => simp [isSettings] at plain
  all_goals rfl

/-- The groups of a stage that uses up nothing are its settings. -/
theorem groupsFor_settings {stage : Stage} (plain : stage.isSettings = true)
    (config : Config) (host : Host) (grants : List (List Grant))
    (incomingGrants : List Grant)
    : stage.groupsFor config host grants incomingGrants
      = [stage.settings config host] := by
  cases stage
  case devices | incoming => simp [isSettings] at plain
  all_goals rfl

end Stage

/-- A stage that is rendered stands before the stages that follow it. -/
theorem runStages_ok {config : Config} {host : Host} {state next : RunState}
    {stage : Stage} {group : List (List LaunchOption)}
    (rendered : (stage.render config host).run state = (.ok group, next))
    (rest : List Stage)
    : (runStages config host state (stage :: rest)).groups
        = (stage, group) :: (runStages config host next rest).groups
      ∧ (runStages config host state (stage :: rest)).outcome
        = (runStages config host next rest).outcome := by
  simp [runStages, rendered]

/-- A stage that fails ends the run with its cause. -/
theorem runStages_error {config : Config} {host : Host} {state next : RunState}
    {stage : Stage} {cause : AllocationError}
    (failed : (stage.render config host).run state = (.error cause, next))
    (rest : List Stage)
    : (runStages config host state (stage :: rest)).outcome = .error cause := by
  simp [runStages, failed]

/-- Stages that use up nothing put their settings before what follows them, by induction on the
stages.
-/
theorem runStages_settings (stages : List Stage)
    (plain : ∀ stage ∈ stages, stage.isSettings = true)
    (config : Config) (host : Host) (state : RunState) (rest : List Stage)
    : (runStages config host state (stages ++ rest)).groups
        = stages.map (fun stage => (stage, [stage.settings config host]))
          ++ (runStages config host state rest).groups
      ∧ (runStages config host state (stages ++ rest)).outcome
        = (runStages config host state rest).outcome := by
  induction stages with
  | nil => exact ⟨rfl, rfl⟩
  | cons stage later ih =>
      have head := Stage.render_settings (plain stage (by simp)) config host state
      obtain ⟨groups, outcome⟩ := ih (fun other member => plain other (by simp [member]))
      obtain ⟨first, same⟩ := runStages_ok head (later ++ rest)
      refine ⟨?_, same.trans outcome⟩
      rw [List.cons_append, first, groups]
      rfl

/-- The stages before those of the devices. -/
def stagesBeforeDevices : List Stage :=
  [.identity, .machine, .cpu, .display, .tpm, .smbios, .control, .memory]

/-- The stages between those of the devices and of the incoming migration. -/
def stagesBeforeIncoming : List Stage :=
  [.clock, .globals, .flashImages, .vga, .knobs, .kernel, .bios, .ioThreads]

def stagesAfterIncoming : List Stage := [.files, .firmwareBlobs, .sandbox, .processors]

/-- The two stages that use something up stand between stages that do not. -/
theorem stages_all
    : Stage.all
      = stagesBeforeDevices
        ++ .devices :: (stagesBeforeIncoming ++ .incoming :: (stagesAfterIncoming ++ [])) :=
  rfl

/-- Stages whose requests are granted are all rendered, with the groups that go with the
grants.
-/
theorem runStages_granted {config : Config} {host : Host} {state placed final : RunState}
    {grants : List (List Grant)} {incoming : List Grant}
    (devices : PlanGranted state (config.plan host) grants placed)
    (migration : Granted placed config.incoming.requests incoming final)
    : (runStages config host state Stage.all).groups
        = Stage.all.map (fun stage => (stage, stage.groupsFor config host grants incoming))
      ∧ (runStages config host state Stage.all).outcome = .ok final := by
  have source : (Stage.incoming.render config host).run placed
      = (.ok [config.incoming.optionsFor incoming], final) := by
    simp only [Stage.render, Migration.render_eq, Render.run_bind, Render.run_map,
      migration.serve, Render.run_pure]
  have before := runStages_settings stagesBeforeDevices (by decide) config host
    state (.devices :: (stagesBeforeIncoming ++ .incoming :: (stagesAfterIncoming ++ [])))
  have plan : (Stage.devices.render config host).run state
      = (.ok (Stage.devices.groupsFor config host grants incoming), placed) :=
    devices.render host.architecture config.knobs.iommuPlatform
  have first := runStages_ok plan
    (stagesBeforeIncoming ++ .incoming :: (stagesAfterIncoming ++ []))
  have between := runStages_settings stagesBeforeIncoming (by decide) config host
    placed (.incoming :: (stagesAfterIncoming ++ []))
  have second := runStages_ok source (stagesAfterIncoming ++ [])
  have after := runStages_settings stagesAfterIncoming (by decide) config host
    final []
  rw [stages_all]
  refine ⟨?_, ?_⟩
  · rw [before.1, first.1, between.1, second.1, after.1]
    rfl
  · rw [before.2, first.2, between.2, second.2, after.2]
    rfl

-----------------------------------------------------------------------------------------
-- The assembly
-----------------------------------------------------------------------------------------

namespace Config

/-- The explicit boot indices in the order of the devices. -/
def explicitBootIndices (config : Config) : List UInt32 :=
  config.devices.filterMap Device.explicitBootIndex?

/-- The requests for the explicit boot indices. -/
def reserveRequests (config : Config) : List Request :=
  config.explicitBootIndices.map Request.reserve

/-- What a configuration asks for: its explicit boot indices, then what its devices need, then
the descriptor of a migration.
-/
def requests (config : Config) (host : Host) : List Request :=
  config.reserveRequests
    ++ ((config.plan host).flatMap PlannedDevice.requests ++ config.incoming.requests)

end Config

/-- Recording boot indices that are granted succeeds, in the state in which they are recorded. -/
theorem Granted.reserve_run {state reserved : RunState} {config : Config}
    {reservations : List Grant}
    (h : Granted state config.reserveRequests reservations reserved)
    : (reserveBootIndices config.devices).run state = (.ok (), reserved) := by
  have served : (serveAll ((config.devices.filterMap Device.explicitBootIndex?).map
      Request.reserve)).run state = (.ok reservations, reserved) := h.serve
  rw [reserveBootIndices_eq, Render.run_map, served]

/-- The run of an assembly to which everything is granted, with the states between its phases
and what it has granted in each.
-/
structure GrantedRun (settings : BuildSettings) (config : Config) where
  /-- The state once the explicit boot indices are recorded. -/
  reserved : RunState
  /-- The state once all devices are rendered. -/
  placed : RunState
  final : RunState
  reservations : List Grant
  /-- What each device of the plan has been granted. -/
  grants : List (List Grant)
  incoming : List Grant
  reserve_granted
    : Granted (RunState.initial settings.policy) config.reserveRequests reservations reserved
  devices_granted : PlanGranted reserved (config.plan (settings.host config)) grants placed
  incoming_granted : Granted placed config.incoming.requests incoming final

namespace GrantedRun
variable {settings : BuildSettings} {config : Config}

theorem granted (run : GrantedRun settings config)
    : Granted (RunState.initial settings.policy) (config.requests (settings.host config))
        (run.reservations ++ (run.grants.flatten ++ run.incoming)) run.final :=
  run.reserve_granted.append (run.devices_granted.granted.append run.incoming_granted)

def groups (run : GrantedRun settings config) (stage : Stage) : List (List LaunchOption) :=
  stage.groupsFor config (settings.host config) run.grants run.incoming

/-- The invocation that the run gives. -/
def invocation (run : GrantedRun settings config) : Invocation where
  options := Stage.all.flatMap fun stage => (run.groups stage).flatten
  descriptors := run.final.descriptors

/-- The options of the invocation: those of the devices and of the migration, with the settings
before, between and behind them.
-/
theorem options_eq (run : GrantedRun settings config)
    : run.invocation.options
      = stagesBeforeDevices.flatMap (Stage.settings config (settings.host config))
        ++ (run.groups .devices).flatten
        ++ stagesBeforeIncoming.flatMap (Stage.settings config (settings.host config))
        ++ config.incoming.optionsFor run.incoming
        ++ stagesAfterIncoming.flatMap (Stage.settings config (settings.host config)) := by
  have settings_groups (stages : List Stage)
      (plain : ∀ stage ∈ stages, stage.isSettings = true)
      : (stages.flatMap fun stage => (run.groups stage).flatten)
        = stages.flatMap (Stage.settings config (settings.host config)) := by
    rw [List.flatMap_def, List.flatMap_def]
    congr 1
    refine List.map_congr_left fun stage member => ?_
    rw [groups, Stage.groupsFor_settings (plain stage member), List.flatten_cons,
      List.flatten_nil, List.append_nil]
  have incoming : (run.groups .incoming).flatten = config.incoming.optionsFor run.incoming :=
    List.append_nil _
  show Stage.all.flatMap (fun stage => (run.groups stage).flatten) = _
  rw [stages_all, List.flatMap_append, List.flatMap_cons, List.flatMap_append,
    List.flatMap_cons, List.flatMap_append, settings_groups _ (by decide),
    settings_groups _ (by decide), settings_groups _ (by decide), incoming]
  simp only [List.append_assoc, List.flatMap_nil, List.append_nil]

theorem reserve_run (run : GrantedRun settings config)
    : (reserveBootIndices config.devices).run (RunState.initial settings.policy)
      = (.ok (), run.reserved) :=
  run.reserve_granted.reserve_run

theorem renderAll (run : GrantedRun settings config)
    : (GuestLaunch.renderAll settings config).groups
        = Stage.all.map (fun stage => (stage, run.groups stage))
      ∧ (GuestLaunch.renderAll settings config).outcome = .ok run.final := by
  simp only [GuestLaunch.renderAll, run.reserve_run]
  exact runStages_granted run.devices_granted run.incoming_granted

/-- A valid configuration is assembled to the invocation of its run. -/
theorem build_outcome (run : GrantedRun settings config) (valid : config.problems = [])
    : (build settings config).outcome = .ok run.invocation := by
  obtain ⟨groups, outcome⟩ := run.renderAll
  have options : (GuestLaunch.renderAll settings config).options = run.invocation.options := by
    rw [StagedRun.options, groups, List.flatMap_map]
    rfl
  simp only [build, Config.validate, valid, outcome, options]
  rfl

/-- Every run that grants all requests of a configuration passes through the phases of the
assembly, by splitting the requests.
-/
theorem of_granted {grants : List Grant} {final : RunState}
    (h : Granted (RunState.initial settings.policy) (config.requests (settings.host config))
      grants final)
    : ∃ run : GrantedRun settings config, run.final = final := by
  obtain ⟨reservations, rest, reserved, rfl, reserve_granted, later⟩ := Granted.split h
  obtain ⟨devices, incoming, placed, rfl, granted, incoming_granted⟩ := Granted.split later
  obtain ⟨grants, rfl, devices_granted⟩ := Granted.plan granted
  exact ⟨
    { reserved, placed, final, reservations, grants, incoming, reserve_granted,
      devices_granted, incoming_granted },
    rfl
  ⟩

end GrantedRun

/-- A valid configuration with a request that is refused is not assembled, for the cause of the
refusal. The refusal happens while boot indices are recorded or while devices are rendered,
because a migration is refused nothing.
-/
theorem Refused.build_outcome {settings : BuildSettings} {config : Config}
    {cause : AllocationError} {final : RunState}
    (h : Refused (RunState.initial settings.policy) (config.requests (settings.host config))
      cause final)
    (valid : config.problems = [])
    : (build settings config).outcome = .error (.allocation cause) := by
  have failed : (renderAll settings config).outcome = .error cause := by
    rcases Refused.split h with refused | ⟨reservations, reserved, granted, refused⟩
    · have served : (serveAll ((config.devices.filterMap Device.explicitBootIndex?).map
          Request.reserve)).run (RunState.initial settings.policy) = (.error cause, final) :=
        refused.serve
      simp only [renderAll, reserveBootIndices_eq, Render.run_map, served]
    · simp only [renderAll, granted.reserve_run]
      rw [stages_all, (runStages_settings stagesBeforeDevices (by decide) config
        (settings.host config) reserved _).2]
      rcases Refused.split refused with refused | ⟨grants, placed, _, refused⟩
      · have plan : (Stage.devices.render config (settings.host config)).run reserved
            = (.error cause, final) :=
          refused.renderPlan (settings.host config).architecture config.knobs.iommuPlatform
        exact runStages_error plan _
      · cases source : config.incoming with
        | absent | command | deferred =>
            rw [source] at refused
            cases refused
        | descriptor host =>
            rw [source] at refused
            cases refused with
            | here answer => cases answer
            | later _ later => cases later
  simp only [build, Config.validate, valid, failed]

/-- An assembly ends in one of three ways: with the problems of the configuration, with the
invocation of a run that grants everything, or with the cause of a refusal.
-/
theorem build_cases (settings : BuildSettings) (config : Config)
    : (config.problems ≠ []
          ∧ (build settings config).outcome = .error (.invalid config.problems))
      ∨ (config.problems = []
          ∧ ∃ run : GrantedRun settings config,
              (build settings config).outcome = .ok run.invocation)
      ∨ (config.problems = []
          ∧ ∃ cause final,
              Refused (RunState.initial settings.policy)
                (config.requests (settings.host config)) cause final
              ∧ (build settings config).outcome = .error (.allocation cause)) := by
  cases found : config.problems with
  | cons problem rest =>
      refine Or.inl ⟨List.cons_ne_nil _ _, ?_⟩
      simp only [build, Config.validate, found]
  | nil =>
      rcases granted_or_refused (RunState.initial settings.policy)
          (config.requests (settings.host config)) with
        ⟨grants, final, granted⟩ | ⟨cause, final, refused⟩
      · obtain ⟨run, _⟩ := GrantedRun.of_granted granted
        exact Or.inr (Or.inl ⟨rfl, run, run.build_outcome found⟩)
      · exact Or.inr (Or.inr ⟨rfl, cause, final, refused, refused.build_outcome found⟩)

/-- An assembly succeeds exactly for valid configurations to which everything is granted, with
the invocation of such a run.
-/
theorem build_ok_iff {settings : BuildSettings} {config : Config} {invocation : Invocation}
    : (build settings config).outcome = .ok invocation
      ↔ config.problems = []
        ∧ ∃ run : GrantedRun settings config, run.invocation = invocation := by
  constructor
  · intro built
    rcases build_cases settings config with
      ⟨_, outcome⟩ | ⟨valid, run, outcome⟩ | ⟨_, _, _, _, outcome⟩
    · cases outcome.symm.trans built
    · exact ⟨valid, run, Except.ok.inj (outcome.symm.trans built)⟩
    · cases outcome.symm.trans built
  · rintro ⟨valid, run, rfl⟩
    exact run.build_outcome valid

/-- An assembly fails for an allocation exactly for valid configurations with a request that is
refused for the cause.
-/
theorem build_error_iff {settings : BuildSettings} {config : Config}
    {cause : AllocationError}
    : (build settings config).outcome = .error (.allocation cause)
      ↔ config.problems = []
        ∧ ∃ final,
            Refused (RunState.initial settings.policy)
              (config.requests (settings.host config)) cause final := by
  constructor
  · intro failed
    rcases build_cases settings config with
      ⟨_, outcome⟩ | ⟨_, _, outcome⟩ | ⟨valid, own, final, refused, outcome⟩
    · cases outcome.symm.trans failed
    · cases outcome.symm.trans failed
    · cases outcome.symm.trans failed
      exact ⟨valid, final, refused⟩
  · rintro ⟨valid, final, refused⟩
    exact refused.build_outcome valid

/-- An assembly reports problems exactly if validation finds some, and then all of them. -/
theorem build_invalid_iff {settings : BuildSettings} {config : Config}
    {problems : List Problem}
    : (build settings config).outcome = .error (.invalid problems)
      ↔ config.problems = problems ∧ problems ≠ [] := by
  rcases build_cases settings config with
    ⟨found, outcome⟩ | ⟨valid, _, outcome⟩ | ⟨valid, _, _, _, outcome⟩
  · rw [outcome]
    constructor
    · intro same
      cases same
      exact ⟨rfl, found⟩
    · rintro ⟨rfl, _⟩
      rfl
  all_goals
    rw [outcome, valid]
    constructor
    · intro failed
      cases failed
    · rintro ⟨rfl, some⟩
      exact absurd rfl some

/-- An assembly whose outcome is no failure has given an invocation. -/
theorem BuildReport.exists_invocation {report : BuildReport}
    (succeeds : report.outcome.toOption.isSome = true)
    : ∃ invocation, report.outcome = .ok invocation := by
  cases outcome : report.outcome with
  | ok invocation => exact ⟨invocation, rfl⟩
  | error failure =>
      rw [outcome] at succeeds
      cases succeeds

end GuestLaunch
