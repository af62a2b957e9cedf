/-!
Options of the hypervisor's command line. An option is a bare switch, or a flag with one value
that is made of parameters; which of the two a flag is belongs to its type.
-/

namespace GuestLaunch

/-- The flags that take no value. -/
inductive Switch where
  | noUserConfig
  | noDefaults
  | noGraphic
  | noReboot
  | noShutdown
  | daemonize
  | stopped
  | noHpet
  | snapshot
deriving DecidableEq, Repr

/-- The spelling of a switch. -/
def Switch.spelling : Switch → String
  | noUserConfig => "-no-user-config"
  | noDefaults => "-nodefaults"
  | noGraphic => "-nographic"
  | noReboot => "--no-reboot"
  | noShutdown => "--no-shutdown"
  | daemonize => "-daemonize"
  | stopped => "-S"
  | noHpet => "-no-hpet"
  | snapshot => "-snapshot"

/-- The flags that take one value. -/
inductive Flag where
  | name
  | uuid
  | machine
  | cpu
  | spice
  | device
  | chardev
  | tpmdev
  | smbios
  | qmp
  | memory
  | object
  | drive
  | netdev
  | serial
  | monitor
  | rtc
  | global
  | pflash
  | vga
  | numa
  | overcommit
  | kernel
  | initrd
  | append
  | bios
  | incoming
  | pidFile
  | logFile
  | fwCfg
  | sandbox
  | smp
deriving DecidableEq, Repr

/-- The spelling of a flag. -/
def Flag.spelling : Flag → String
  | name => "-name"
  | uuid => "-uuid"
  | machine => "-machine"
  | cpu => "-cpu"
  | spice => "-spice"
  | device => "-device"
  | chardev => "-chardev"
  | tpmdev => "-tpmdev"
  | smbios => "-smbios"
  | qmp => "-qmp"
  | memory => "-m"
  | object => "-object"
  | drive => "-drive"
  | netdev => "-netdev"
  | serial => "-serial"
  | monitor => "-monitor"
  | rtc => "-rtc"
  | global => "-global"
  | pflash => "-pflash"
  | vga => "-vga"
  | numa => "-numa"
  | overcommit => "-overcommit"
  | kernel => "-kernel"
  | initrd => "-initrd"
  | append => "-append"
  | bios => "-bios"
  | incoming => "-incoming"
  | pidFile => "-pidfile"
  | logFile => "-D"
  | fwCfg => "-fw_cfg"
  | sandbox => "-sandbox"
  | smp => "-smp"

/-- A parameter in the value of a flag. -/
inductive Param where
  /-- A text that stands by itself. -/
  | bare (text : String)
  /-- A property with its value. -/
  | pair (key value : String)
deriving DecidableEq, Repr

namespace Param

/-- The text of a parameter. -/
def text : Param → String
  | bare text => text
  | pair key value => key ++ "=" ++ value

/-- A property that is present only where its value is not empty. -/
def unlessEmpty (key value : String) : List Param :=
  if value.isEmpty then [] else [pair key value]

/-- The word for a switch setting. -/
def onOff (enabled : Bool) : String := if enabled then "on" else "off"

/-- A property that is `on` where a condition holds and absent where it does not. -/
def onWhen (key : String) (enabled : Bool) : List Param :=
  if enabled then [pair key "on"] else []

end Param

/-- One option of the command line. -/
inductive LaunchOption where
  | toggle (switch : Switch)
  | setting (flag : Flag) (params : List Param)
deriving DecidableEq, Repr

namespace LaunchOption

/-- The value of a flag: its parameters, separated by commas. -/
def joinParams (params : List Param) : String := ",".intercalate (params.map Param.text)

/-- The arguments that make up an option. -/
def arguments : LaunchOption → List String
  | toggle switch => [switch.spelling]
  | setting flag params => [flag.spelling, joinParams params]

/-- A flag whose value is one text. -/
def value (flag : Flag) (text : String) : LaunchOption := setting flag [.bare text]

/-- A flag with a text as its value, present only where the text is not empty. -/
def unlessEmpty (flag : Flag) (text : String) : List LaunchOption :=
  if text.isEmpty then [] else [value flag text]

end LaunchOption

/-- The arguments of a sequence of options. -/
def argumentsOf (options : List LaunchOption) : List String :=
  options.flatMap LaunchOption.arguments

end GuestLaunch
