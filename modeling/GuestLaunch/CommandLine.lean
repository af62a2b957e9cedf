import GuestLaunch.Assembly.Build
import GuestLaunch.Sockets
import GuestLaunch.Text.Shell

/-!
The commands of the program: assembling a guest, checking its configuration, and listing its
sockets. What a command prints and its exit code follow from its arguments and from the file
that holds the configuration.
-/

namespace GuestLaunch.CommandLine

/-- How a command line is printed. -/
inductive OutputFormat where
  /-- One argument on each line. -/
  | lines
  /-- One line for a shell. -/
  | shell
  | json
deriving DecidableEq, Repr

/-- The formats by their names. -/
def OutputFormat.named : List (String × OutputFormat) :=
  [("lines", .lines), ("shell", .shell), ("json", .json)]

/-- The collision policies by their names. -/
def policies : List (String × CollisionPolicy) := [("strict", .strict), ("legacy", .legacy)]

/-- A command with its settings; each one reads a configuration file. -/
inductive Command where
  | build (settings : BuildSettings) (format : OutputFormat) (showDescriptors : Bool)
  | check (settings : BuildSettings)
  | sockets
deriving DecidableEq, Repr

/-- The options and the files of a command, as they are written. -/
structure RawArguments where
  values : List (String × String) := []
  switches : List String := []
  files : List String := []
deriving DecidableEq, Repr

namespace RawArguments

/-- The options of a command that take a value. -/
def valueOptions : List String := ["--arch", "--policy", "--format"]

/-- Splits an option at its first equality sign. -/
def splitOption (argument : String) : String × Option String :=
  let symbols := argument.toList
  match symbols.dropWhile (· != '=') with
  | [] => (argument, none)
  | _ :: value => (String.ofList (symbols.takeWhile (· != '=')), some (String.ofList value))

/-- Sorts the arguments behind a command; none where an option is unknown or lacks a value. -/
def read? (raw : RawArguments) : List String → Option RawArguments
  | [] => some raw
  | "--" :: files => some { raw with files := raw.files ++ files }
  | argument :: rest =>
      if Text.startsWith argument "-" && argument != "-" then
        match splitOption argument with
        | (option, some value) =>
            if valueOptions.contains option then
              { raw with values := raw.values ++ [(option, value)] }.read? rest
            else
              none
        | (option, none) =>
            if valueOptions.contains option then
              match rest with
              | [] => none
              | value :: later =>
                  if Text.startsWith value "-" then none
                  else { raw with values := raw.values ++ [(option, value)] }.read? later
            else
              { raw with switches := raw.switches ++ [option] }.read? rest
      else
        { raw with files := raw.files ++ [argument] }.read? rest

/-- The value of an option, and the given one where the option is absent; none where the option
is repeated or its value is not understood.
-/
def value? {α : Type} (raw : RawArguments) (option : String) (absent : α)
    (read : String → Option α) : Option α :=
  match raw.values.filter (·.1 == option) with
  | [] => some absent
  | [(_, value)] => read value
  | _ => none

/-- Whether a switch is given; none where it is repeated. -/
def switch? (raw : RawArguments) (option : String) : Option Bool :=
  match raw.switches.filter (· == option) with
  | [] => some false
  | [_] => some true
  | _ => none

/-- Whether all options are among the allowed ones. -/
def allows (raw : RawArguments) (options : List String) : Bool :=
  (raw.values.map (·.1) ++ raw.switches).all options.contains

end RawArguments

/-- The architecture with a name. -/
def readArchitecture? (name : String) : Option Architecture :=
  (Architecture.ofName name).toOption

/-- Reads a command and the file it works on; none where it is used wrongly. -/
def Command.read? : List String → Option (Command × String)
  | [] => none
  | name :: arguments => do
      let raw ← RawArguments.read? {} arguments
      let architecture ← raw.value? "--arch" .x86_64 readArchitecture?
      let policy ← raw.value? "--policy" .strict fun name => policies.lookup name
      let format ← raw.value? "--format" .lines fun name =>
        OutputFormat.named.lookup name
      let showDescriptors ← raw.switch? "--fds"
      let [file] := raw.files | none
      match name with
      | "build" =>
          if raw.allows ["--arch", "--policy", "--format", "--fds"] then
            some (.build { architecture, policy } format showDescriptors, file)
          else
            none
      | "check" =>
          if raw.allows ["--arch"] then some (.check { architecture }, file) else none
      | "sockets" => if raw.allows [] then some (.sockets, file) else none
      | _ => none

/-- What a command leaves behind. -/
structure CommandResult where
  exitCode : UInt8 := 0
  output : String := ""
  errors : String := ""
deriving DecidableEq, Repr

namespace CommandResult

/-- The exit code of a configuration that does not give a guest. -/
def invalidCode : UInt8 := 1

/-- The exit code of a wrong usage and of a configuration that cannot be read. -/
def unreadableCode : UInt8 := 2

/-- A failure of the assembly. -/
def failed (failure : BuildFailure) : CommandResult :=
  { exitCode := invalidCode, errors := "Error: " ++ failure.message ++ "\n" }

/-- A wrong usage. -/
def misused : CommandResult :=
  { exitCode := unreadableCode
    errors := "usage: qcmd build|check|sockets CONFIG [--arch ARCH] [--policy strict|legacy] "
      ++ "[--format lines|shell|json] [--fds]\n" }

/-- A configuration file that cannot be read. -/
def unreadable (file : String) : CommandResult :=
  { exitCode := unreadableCode
    errors := "Error: failed to access configuration '" ++ file ++ "'\n" }

/-- A file whose contents are no configuration. -/
def unparsable : CommandResult :=
  { exitCode := unreadableCode, errors := "Error: failed to parse configuration\n" }

end CommandResult

/-- Texts that end their lines. -/
def linesOf (texts : List String) : String := String.join (texts.map (· ++ "\n"))

/-- The lines that tell which descriptor of the host the child has under which number. -/
def descriptorLines (descriptors : List Int32) : List String :=
  descriptors.mapIdx fun position descriptor =>
    "# fd " ++ Text.decimal (firstChildDescriptor + position) ++ " <- host fd "
      ++ Text.signedDecimal descriptor.toInt

/-- An invocation as JSON: the arguments, or an object that holds the descriptors, too. -/
def invocationJson (invocation : Invocation) (showDescriptors : Bool) : Json :=
  let arguments := Json.list (invocation.arguments.map Json.ofString)
  if showDescriptors then
    Json.ofFields
      [("args", arguments),
        ("fds", .list (invocation.descriptors.map fun value => Json.ofInt value.toInt))]
  else
    arguments

/-- The printed form of an invocation. -/
def printInvocation (invocation : Invocation) (format : OutputFormat)
    (showDescriptors : Bool) : String :=
  let trailer := if showDescriptors then linesOf (descriptorLines invocation.descriptors) else ""
  match format with
  | .lines => linesOf invocation.arguments ++ trailer
  | .shell => Text.Shell.line invocation.arguments ++ "\n" ++ trailer
  | .json => (invocationJson invocation showDescriptors).pretty ++ "\n"

/-- Runs a command on a configuration. -/
def Command.runOn (command : Command) (file : String) (config : Config) : CommandResult :=
  match command with
  | build settings format showDescriptors =>
      match (GuestLaunch.build settings config).outcome with
      | .ok invocation => { output := printInvocation invocation format showDescriptors }
      | .error failure => .failed failure
  | check _ =>
      match config.validate with
      | .ok () => { output := file ++ ": ok\n" }
      | .error failure => .failed failure
  | sockets => { output := linesOf config.socketPaths }

/-- Runs a command on the text of its file, which may be missing. -/
def Command.run (command : Command) (file : String) (contents : Option String)
    : CommandResult :=
  match contents with
  | none => .unreadable file
  | some text =>
      match Config.parse? text with
      | none => .unparsable
      | some config => command.runOn file config

end GuestLaunch.CommandLine
