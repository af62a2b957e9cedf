import GuestLaunch.Assembly.StageOptions
import GuestLaunch.Validation

/-!
The assembly of a guest: a configuration is validated, the explicit boot indices are recorded,
and the stages are rendered in their order. Any failure leaves no command line at all, only
the log up to it.
-/

namespace GuestLaunch

/-- How a guest is assembled, apart from its configuration. -/
structure BuildSettings where
  architecture : Architecture := .x86_64
  policy : CollisionPolicy := .strict
deriving DecidableEq, Repr, Inhabited

/-- The host that a guest is assembled for. -/
def BuildSettings.host (settings : BuildSettings) (config : Config) : Host :=
  { architecture := settings.architecture, machineType := config.machine.type }

/-- A command line, and the descriptors of the host that its process inherits. -/
structure Invocation where
  options : List LaunchOption := []
  descriptors : List Int32 := []
deriving DecidableEq, Repr, Inhabited

/-- The arguments of an invocation, without the name of the program. -/
def Invocation.arguments (invocation : Invocation) : List String :=
  argumentsOf invocation.options

/-- Why a guest was not assembled. -/
inductive BuildFailure where
  | invalid (problems : List Problem)
  | allocation (cause : AllocationError)
deriving DecidableEq, Repr

def BuildFailure.message : BuildFailure → String
  | invalid problems => Problem.summary problems
  | allocation cause => cause.message

/-- What the stages have given: their groups of options, their log entries, and the state at
the end or the cause for which a stage failed.
-/
structure StagedRun where
  groups : List (Stage × List (List LaunchOption)) := []
  log : List LogEntry := []
  outcome : Except AllocationError RunState

/-- All options of the stages. -/
def StagedRun.options (run : StagedRun) : List LaunchOption :=
  run.groups.flatMap fun group => group.2.flatten

/-- Renders stages one after the other, up to the first that fails. -/
def runStages (config : Config) (host : Host) (state : RunState) : List Stage → StagedRun
  | [] => { outcome := .ok state }
  | stage :: rest =>
      match (stage.render config host).run state with
      | (.error cause, _) => { outcome := .error cause }
      | (.ok group, next) =>
          let later := runStages config host next rest
          { groups := (stage, group) :: later.groups
            log := stage.notices config ++ later.log
            outcome := later.outcome }

/-- Records the boot indices and renders all stages, from a fresh state. -/
def renderAll (settings : BuildSettings) (config : Config) : StagedRun :=
  match (reserveBootIndices config.devices).run (RunState.initial settings.policy) with
  | (.error cause, _) => { outcome := .error cause }
  | (.ok (), state) => runStages config (settings.host config) state Stage.all

/-- The name of a collision policy in the log. -/
def CollisionPolicy.logName : CollisionPolicy → String
  | strict => "Strict"
  | legacy => "Legacy"

/-- The first entry of the log. -/
def startEntry (settings : BuildSettings) (config : Config) : LogEntry where
  level := .info
  text := "assembling '" ++ config.name ++ "' for " ++ settings.architecture.name ++ " ("
    ++ settings.policy.logName ++ " collisions)"

/-- The last entry of the log of an assembly that succeeds. -/
def endEntry (invocation : Invocation) : LogEntry where
  level := .info
  text := "assembled " ++ Text.decimal invocation.arguments.length ++ " arguments"

/-- An assembly with its log. -/
structure BuildReport where
  log : List LogEntry
  outcome : Except BuildFailure Invocation

/-- Checks a configuration without assembling it. -/
def Config.validate (config : Config) : Except BuildFailure Unit :=
  match config.problems with
  | [] => .ok ()
  | problems => .error (.invalid problems)

/-- Assembles a guest. -/
def build (settings : BuildSettings) (config : Config) : BuildReport :=
  let start := startEntry settings config
  match config.validate with
  | .error failure => { log := [start], outcome := .error failure }
  | .ok () =>
      let run := renderAll settings config
      match run.outcome with
      | .error cause => { log := start :: run.log, outcome := .error (.allocation cause) }
      | .ok state =>
          let invocation : Invocation :=
            { options := run.options, descriptors := state.descriptors }
          { log := start :: run.log ++ [endEntry invocation], outcome := .ok invocation }

end GuestLaunch
