import GuestLaunch.Assembly.Log
import GuestLaunch.Assembly.Plan
import GuestLaunch.Assembly.Stage

/-!
What each stage contributes to the command line and to the log. Only the stage of the devices
can fail, and only it and the incoming migration use up anything.
-/

namespace GuestLaunch

/-- The option of a processor model with its flags. -/
def Config.cpuOptions (config : Config) : List LaunchOption :=
  if config.cpuModel.isEmpty then []
  else [.setting .cpu ((config.cpuModel :: config.cpuFlags).map Param.bare)]

/-- The option of a clock, if there is one and it is valid. -/
def Config.clockOptions (config : Config) : List LaunchOption :=
  match config.clock with
  | some clock => if clock.isValid then clock.launchOptions else []
  | none => []

/-- The options of a firmware blob without a problem; any other is skipped. -/
def FirmwareBlob.validOptions (blob : FirmwareBlob) : List LaunchOption :=
  match blob.problem? with
  | some _ => []
  | none => blob.launchOptions

/-- The options of a stage that uses up nothing. -/
def Stage.settings (config : Config) (host : Host) : Stage → List LaunchOption
  | identity =>
      LaunchOption.unlessEmpty .name config.name ++ LaunchOption.unlessEmpty .uuid config.uuid
  | machine => config.machine.launchOptions
  | cpu => config.cpuOptions
  | display => (config.spice.map Spice.launchOptions).getD []
  | tpm => (config.tpm.map fun tpm => tpm.launchOptions host.architecture).getD []
  | smbios => config.smbios.launchOptions
  | control => config.controlSockets.flatMap ControlSocket.launchOptions
  | memory => config.memory.launchOptions
  | devices => []
  | clock => config.clockOptions
  | globals => config.globalParams.flatMap (LaunchOption.unlessEmpty .global)
  | flashImages => config.flashImages.flatMap (LaunchOption.unlessEmpty .pflash)
  | vga => LaunchOption.unlessEmpty .vga config.vga
  | knobs =>
      config.memory.backendOptions config.knobs host.hasMemoryNodes
        ++ config.knobs.launchOptions
  | kernel => config.kernel.launchOptions
  | bios => LaunchOption.unlessEmpty .bios config.bios
  | ioThreads => config.ioThreads.flatMap IoThread.launchOptions
  | incoming => []
  | files =>
      LaunchOption.unlessEmpty .pidFile config.pidFile
        ++ LaunchOption.unlessEmpty .logFile config.logFile
  | firmwareBlobs => config.firmwareBlobs.flatMap FirmwareBlob.validOptions
  | sandbox => LaunchOption.unlessEmpty .sandbox config.sandbox
  | processors => config.processors.launchOptions

/-- The options of a stage, in one group for each device and in one group otherwise. -/
def Stage.render (config : Config) (host : Host) : Stage → Render (List (List LaunchOption))
  | devices => renderPlan host.architecture config.knobs.iommuPlatform (config.plan host)
  | incoming => do
      let options ← config.incoming.render
      pure [options]
  | stage => pure [stage.settings config host]

/-- The entry for a clock that is skipped. -/
def Clock.skipped (clock : Clock) : LogEntry where
  level := .warning
  text := "skipping real-time clock: clock '" ++ clock.source ++ "' and driftfix '"
    ++ clock.driftFix ++ "' must be host|rt|vm and slew|none"

/-- The entry for a firmware blob that is skipped. -/
def FirmwareBlob.skipped (problem : Problem) : LogEntry where
  level := .error
  text := "skipping fw_cfg entry: " ++ problem.message

/-- The entries that a stage adds to the log: one for each setting that it skips. -/
def Stage.notices (config : Config) : Stage → List LogEntry
  | clock =>
      match config.clock with
      | some settings => if settings.isValid then [] else [settings.skipped]
      | none => []
  | firmwareBlobs =>
      (config.firmwareBlobs.filterMap FirmwareBlob.problem?).map FirmwareBlob.skipped
  | _ => []

end GuestLaunch
