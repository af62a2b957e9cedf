import GuestLaunch.Assembly.Build
import Mathlib.Data.List.Forall2

/-!
Settings that an assembly skips: firmware blobs with a problem, a clock that is not valid, and
threads without an identifier. A configuration is assembled as if they were not there; only the log
tells of them.
-/

namespace GuestLaunch

namespace Config

/-- The firmware blobs that are skipped. -/
def skippedBlobs (config : Config) : List FirmwareBlob :=
  config.firmwareBlobs.filter fun blob => blob.problem?.isSome

/-- The clock, if it is skipped. -/
def skippedClock? (config : Config) : Option Clock :=
  config.clock.filter fun clock => !clock.isValid

/-- A configuration without the settings that are skipped. -/
def withoutSkipped (config : Config) : Config :=
  { config with
    clock := config.clock.filter Clock.isValid
    firmwareBlobs := config.firmwareBlobs.filter fun blob => blob.problem?.isNone
    ioThreads := config.ioThreads.filter fun thread => thread.id != "" }

end Config

/-- The entries of a level in the log of an assembly. -/
def BuildReport.entriesOf (report : BuildReport) (level : LogLevel) : List LogEntry :=
  report.log.filter fun entry => entry.level = level

/-- An entry of the log tells of a firmware blob that it has a problem. -/
def FirmwareBlob.ReportedBy (blob : FirmwareBlob) (entry : LogEntry) : Prop :=
  ∃ problem, blob.problem? = some problem ∧ entry = FirmwareBlob.skipped problem

/-- What becomes of the settings that are skipped. -/
structure SkippedUntraced (settings : BuildSettings) (config : Config) : Prop where
  /-- Without them, the assembly gives the same invocation or the same failure. -/
  outcome
    : (build settings config.withoutSkipped).outcome = (build settings config).outcome
  /-- Without them, the log has the entries about the progress and no others. -/
  progress
    : (build settings config.withoutSkipped).log = (build settings config).entriesOf .info
  /-- An assembly that succeeds reports one error for each blob that is skipped, in their order. -/
  errors
    : ∀ invocation,
        (build settings config).outcome = .ok invocation
        → List.Forall₂ FirmwareBlob.ReportedBy config.skippedBlobs
            ((build settings config).entriesOf .error)
  /-- It warns once of a clock that is skipped, and of nothing else. -/
  warnings
    : ∀ invocation,
        (build settings config).outcome = .ok invocation
        → (build settings config).entriesOf .warning
          = config.skippedClock?.toList.map Clock.skipped

-----------------------------------------------------------------------------------------
-- Stages without the settings that they skip
-----------------------------------------------------------------------------------------

/-- Items that render as nothing may be left out, by induction on the items. -/
theorem flatMap_filter_of_skipped {α β : Type} {kept : α → Bool} {render : α → List β}
    (skipped : ∀ item, kept item = false → render item = []) (items : List α)
    : (items.filter kept).flatMap render = items.flatMap render := by
  induction items with
  | nil => rfl
  | cons item rest ih =>
      cases keeps : kept item with
      | true => rw [List.filter_cons_of_pos keeps, List.flatMap_cons, List.flatMap_cons, ih]
      | false =>
          have leaves : ¬kept item = true := by simp [keeps]
          rw [List.filter_cons_of_neg leaves, List.flatMap_cons, skipped item keeps, ih,
            List.nil_append]

theorem FirmwareBlob.validOptions_of_skipped (blob : FirmwareBlob)
    (skipped : blob.problem?.isNone = false)
    : blob.validOptions = [] := by
  unfold validOptions
  cases found : blob.problem? with
  | some problem => rfl
  | none => simp [found] at skipped

theorem IoThread.launchOptions_of_skipped (thread : IoThread)
    (skipped : (thread.id != "") = false)
    : thread.launchOptions = [] := by
  have unnamed : thread.id = "" := by simpa using skipped
  rw [launchOptions, unnamed]
  rfl

theorem Config.clockOptions_withoutSkipped (config : Config)
    : config.withoutSkipped.clockOptions = config.clockOptions := by
  unfold clockOptions withoutSkipped
  cases config.clock with
  | none => rfl
  | some clock => cases valid : clock.isValid <;> simp [Option.filter, valid]

namespace Stage

/-- The stages that skip settings render nothing for them, and no other stage reads them. -/
theorem settings_withoutSkipped (stage : Stage) (config : Config) (host : Host)
    : stage.settings config.withoutSkipped host = stage.settings config host := by
  cases stage with
  | clock => exact config.clockOptions_withoutSkipped
  | ioThreads =>
      exact flatMap_filter_of_skipped IoThread.launchOptions_of_skipped config.ioThreads
  | firmwareBlobs =>
      exact flatMap_filter_of_skipped FirmwareBlob.validOptions_of_skipped
        config.firmwareBlobs
  | _ => rfl

/-- All stages render alike without the settings that are skipped. -/
theorem render_withoutSkipped (stage : Stage) (config : Config) (host : Host)
    : stage.render config.withoutSkipped host = stage.render config host := by
  cases stage with
  | devices | incoming => rfl
  | _ =>
      exact congrArg (fun options => pure [options]) (settings_withoutSkipped _ config host)

-----------------------------------------------------------------------------------------
-- Notices
-----------------------------------------------------------------------------------------

/-- The clock is noticed if it is skipped. -/
theorem notices_clock (config : Config)
    : clock.notices config = config.skippedClock?.toList.map Clock.skipped := by
  unfold notices Config.skippedClock?
  cases config.clock with
  | none => rfl
  | some clock => cases valid : clock.isValid <;> simp [Option.filter, valid]

theorem level_of_mem_notices_clock {config : Config}
    : ∀ entry ∈ clock.notices config, entry.level = .warning := by
  rw [notices_clock]
  intro entry noticed
  obtain ⟨clock, _, rfl⟩ := List.mem_map.mp noticed
  rfl

theorem level_of_mem_notices_firmwareBlobs {config : Config}
    : ∀ entry ∈ firmwareBlobs.notices config, entry.level = .error := by
  intro entry noticed
  obtain ⟨problem, _, rfl⟩ := List.mem_map.mp noticed
  rfl

/-- No stage reports progress: it warns of a clock or reports the errors of blobs. -/
theorem level_of_mem_notices {stage : Stage} {config : Config} {entry : LogEntry}
    (noticed : entry ∈ stage.notices config)
    : entry.level ≠ .info := by
  cases stage with
  | clock => simp [level_of_mem_notices_clock entry noticed]
  | firmwareBlobs => simp [level_of_mem_notices_firmwareBlobs entry noticed]
  | _ => cases noticed

/-- Without the settings that are skipped, there is nothing to notice. -/
theorem notices_withoutSkipped (stage : Stage) (config : Config)
    : stage.notices config.withoutSkipped = [] := by
  cases stage with
  | clock =>
      have kept : config.withoutSkipped.skippedClock? = none := by
        simp [Config.skippedClock?, Config.withoutSkipped]
      rw [notices_clock, kept]
      rfl
  | firmwareBlobs =>
      refine List.map_eq_nil_iff.mpr (List.filterMap_eq_nil_iff.mpr fun blob member => ?_)
      exact Option.isNone_iff_eq_none.mp (List.mem_filter.mp member).2
  | _ => rfl

/-- The blobs that are skipped are noticed one by one, by induction on the blobs. -/
theorem notices_firmwareBlobs (blobs : List FirmwareBlob)
    : List.Forall₂ FirmwareBlob.ReportedBy (blobs.filter fun blob => blob.problem?.isSome)
        ((blobs.filterMap FirmwareBlob.problem?).map FirmwareBlob.skipped) := by
  induction blobs with
  | nil => exact .nil
  | cons blob rest ih =>
      cases found : blob.problem? with
      | none =>
          rw [List.filter_cons_of_neg (by simp [found]), List.filterMap_cons_none found]
          exact ih
      | some problem =>
          rw [List.filter_cons_of_pos (by simp [found]), List.filterMap_cons_some found]
          exact .cons ⟨problem, found, rfl⟩ ih

end Stage

-----------------------------------------------------------------------------------------
-- Runs of stages
-----------------------------------------------------------------------------------------

/-- Stages that render alike give the same groups and the same outcome, by induction on the
stages.
-/
theorem runStages_congr {config further : Config} {host : Host}
    (alike : ∀ stage : Stage, stage.render config host = stage.render further host)
    (stages : List Stage) (state : RunState)
    : (runStages config host state stages).groups = (runStages further host state stages).groups
      ∧ (runStages config host state stages).outcome
        = (runStages further host state stages).outcome := by
  induction stages generalizing state with
  | nil => exact ⟨rfl, rfl⟩
  | cons stage rest ih =>
      cases rendered : (stage.render further host).run state with
      | mk result next =>
          cases result with
          | error cause => simp only [runStages, alike, rendered, and_self]
          | ok group =>
              obtain ⟨groups, outcome⟩ := ih next
              simp only [runStages, alike, rendered, groups, outcome, and_self]

/-- Whatever is logged while stages are rendered is noticed by one of them, by induction on the
stages.
-/
theorem exists_notice_of_mem_log {config : Config} {host : Host} {stages : List Stage}
    {state : RunState} {entry : LogEntry}
    (logged : entry ∈ (runStages config host state stages).log)
    : ∃ stage : Stage, entry ∈ stage.notices config := by
  induction stages generalizing state with
  | nil => cases logged
  | cons stage rest ih =>
      cases rendered : (stage.render config host).run state with
      | mk result next =>
          cases result with
          | error cause => simp [runStages, rendered] at logged
          | ok group =>
              simp only [runStages, rendered, List.mem_append] at logged
              rcases logged with own | behind
              · exact ⟨stage, own⟩
              · exact ih behind

/-- Stages that all succeed log what each of them notices, by induction on the stages. -/
theorem log_of_runStages_ok {config : Config} {host : Host} {stages : List Stage}
    {state final : RunState} (succeeded : (runStages config host state stages).outcome = .ok final)
    : (runStages config host state stages).log = stages.flatMap (Stage.notices config) := by
  induction stages generalizing state with
  | nil => rfl
  | cons stage rest ih =>
      cases rendered : (stage.render config host).run state with
      | mk result next =>
          cases result with
          | error cause => simp [runStages, rendered] at succeeded
          | ok group =>
              simp only [runStages, rendered] at succeeded ⊢
              rw [ih succeeded, List.flatMap_cons]

-----------------------------------------------------------------------------------------
-- Assemblies
-----------------------------------------------------------------------------------------

section
variable (settings : BuildSettings) (config : Config)

theorem renderAll_withoutSkipped
    : (renderAll settings config.withoutSkipped).groups = (renderAll settings config).groups
      ∧ (renderAll settings config.withoutSkipped).outcome
        = (renderAll settings config).outcome := by
  have devices : config.withoutSkipped.devices = config.devices := rfl
  have host : settings.host config.withoutSkipped = settings.host config := rfl
  simp only [renderAll, devices, host]
  split
  · exact ⟨rfl, rfl⟩
  · exact runStages_congr (fun stage => stage.render_withoutSkipped config _) _ _

/-- What the stages of an assembly log; nothing if the configuration has problems. -/
def stageEntries : List LogEntry :=
  match config.validate with
  | .error _ => []
  | .ok () => (renderAll settings config).log

/-- An assembly logs its start, then what its stages log, and its end if it succeeds. -/
theorem log_build
    : (build settings config).log
      = startEntry settings config
        :: (stageEntries settings config
          ++ (build settings config).outcome.toOption.toList.map endEntry) := by
  unfold build stageEntries
  cases config.validate with
  | error failure => rfl
  | ok =>
      cases outcome : (renderAll settings config).outcome with
      | error cause => simp [outcome, Except.toOption]
      | ok final => simp [outcome, Except.toOption]

theorem outcome_withoutSkipped
    : (build settings config.withoutSkipped).outcome = (build settings config).outcome := by
  have validated : config.withoutSkipped.validate = config.validate := rfl
  obtain ⟨groups, outcome⟩ := renderAll_withoutSkipped settings config
  have options : (renderAll settings config.withoutSkipped).options
      = (renderAll settings config).options := by
    rw [StagedRun.options, groups, ← StagedRun.options]
  simp only [build, validated, outcome, options]
  cases config.validate with
  | error failure => rfl
  | ok => cases (renderAll settings config).outcome <;> rfl

theorem exists_notice_of_mem_stageEntries {entry : LogEntry}
    (logged : entry ∈ stageEntries settings config)
    : ∃ stage : Stage, entry ∈ stage.notices config := by
  unfold stageEntries at logged
  cases validated : config.validate with
  | error failure => simp [validated] at logged
  | ok =>
      simp only [validated, renderAll] at logged
      split at logged
      · cases logged
      · exact exists_notice_of_mem_log logged

theorem stageEntries_withoutSkipped : stageEntries settings config.withoutSkipped = [] := by
  refine List.eq_nil_iff_forall_not_mem.mpr fun entry logged => ?_
  obtain ⟨stage, noticed⟩ := exists_notice_of_mem_stageEntries settings _ logged
  rw [stage.notices_withoutSkipped] at noticed
  cases noticed

/-- In an assembly that succeeds, the stages log what they notice: the clock comes first. -/
theorem stageEntries_of_ok {invocation : Invocation}
    (built : (build settings config).outcome = .ok invocation)
    : stageEntries settings config
      = Stage.clock.notices config ++ Stage.firmwareBlobs.notices config := by
  have notices : Stage.all.flatMap (Stage.notices config)
      = Stage.clock.notices config ++ Stage.firmwareBlobs.notices config := by
    simp [Stage.all, Stage.notices]
  unfold build at built
  unfold stageEntries
  cases validated : config.validate with
  | error failure => simp [validated] at built
  | ok =>
      cases outcome : (renderAll settings config).outcome with
      | error cause => simp [validated, outcome] at built
      | ok final =>
          simp only [renderAll] at outcome ⊢
          split at outcome
          · cases outcome
          · rw [log_of_runStages_ok outcome, notices]

end

/-- Entries that all have one level are the entries of this level and none of another. -/
theorem filter_level {entries : List LogEntry} {own : LogLevel}
    (every : ∀ entry ∈ entries, entry.level = own) (level : LogLevel)
    : entries.filter (fun entry => entry.level = level) = if own = level then entries else [] := by
  split
  next same =>
    refine List.filter_eq_self.mpr fun entry member => ?_
    simp [every entry member, same]
  next other =>
    refine List.filter_eq_nil_iff.mpr fun entry member => ?_
    simp [every entry member, other]

theorem level_of_mem_ends {invocations : List Invocation}
    : ∀ entry ∈ invocations.map endEntry, entry.level = .info := by
  intro entry member
  obtain ⟨invocation, _, rfl⟩ := List.mem_map.mp member
  rfl

/-- The entries of an assembly beside those about its progress are logged by its stages. -/
theorem entriesOf_build {level : LogLevel} (other : .info ≠ level) (settings : BuildSettings)
    (config : Config)
    : (build settings config).entriesOf level
      = (stageEntries settings config).filter fun entry => entry.level = level := by
  have start : ¬decide ((startEntry settings config).level = level) = true := by
    rw [decide_eq_true_iff]
    exact other
  rw [BuildReport.entriesOf, log_build, List.filter_cons, if_neg start, List.filter_append,
    filter_level level_of_mem_ends, if_neg other, List.append_nil]

/-- The entries about the progress of an assembly tell of its start and of its end. -/
theorem entriesOf_info_build (settings : BuildSettings) (config : Config)
    : (build settings config).entriesOf .info
      = startEntry settings config
        :: (build settings config).outcome.toOption.toList.map endEntry := by
  have stages : (stageEntries settings config).filter (fun entry => entry.level = .info)
      = [] := by
    refine List.filter_eq_nil_iff.mpr fun entry logged => ?_
    obtain ⟨stage, noticed⟩ := exists_notice_of_mem_stageEntries settings config logged
    simpa using Stage.level_of_mem_notices noticed
  rw [BuildReport.entriesOf, log_build, List.filter_cons_of_pos rfl, List.filter_append, stages,
    filter_level level_of_mem_ends, if_pos rfl, List.nil_append]

/-- The settings that an assembly skips leave no trace in what it gives, and each of them one entry
in its log.
-/
theorem skipped_untraced (settings : BuildSettings) (config : Config)
    : SkippedUntraced settings config := by
  constructor
  case outcome => exact outcome_withoutSkipped settings config
  case progress =>
    have start : startEntry settings config.withoutSkipped = startEntry settings config := rfl
    rw [entriesOf_info_build, log_build, stageEntries_withoutSkipped, start,
      outcome_withoutSkipped, List.nil_append]
  case errors =>
    intro invocation built
    rw [entriesOf_build (by decide), stageEntries_of_ok settings config built,
      List.filter_append, filter_level Stage.level_of_mem_notices_clock,
      filter_level Stage.level_of_mem_notices_firmwareBlobs]
    exact Stage.notices_firmwareBlobs config.firmwareBlobs
  case warnings =>
    intro invocation built
    rw [entriesOf_build (by decide), stageEntries_of_ok settings config built,
      List.filter_append, filter_level Stage.level_of_mem_notices_clock,
      filter_level Stage.level_of_mem_notices_firmwareBlobs]
    exact (List.append_nil _).trans (Stage.notices_clock config)

/-- A guest with an invalid clock, and with firmware blobs and threads of which some are skipped. -/
def carelessGuest : Config where
  clock := some { source := "wall" }
  firmwareBlobs :=
    [{ name := "opt/broken" }, { name := "opt/role", contents := "worker" },
      { contents := "worker" }]
  ioThreads := [{}, { id := "t0" }]

/-- The guest is assembled from what is left, and its log tells of three settings. -/
theorem skipped_untraced_carelessGuest
    : (build {} carelessGuest).outcome.toOption.map Invocation.arguments
        = some ["-object", "iothread,id=t0", "-fw_cfg", "name=opt/role,string=worker"]
      ∧ (build {} carelessGuest).log.map LogEntry.level
        = [.info, .warning, .error, .error, .info]
      ∧ SkippedUntraced {} carelessGuest :=
  ⟨by decide +kernel, by decide +kernel, skipped_untraced {} carelessGuest⟩

end GuestLaunch
