import GuestLaunch.Proofs.Arguments.Reading
import GuestLaunch.Proofs.Options.FlagUse

/-!
The unix sockets on which a command line makes the hypervisor listen: those of its options, by
their parameters, and those that are read off the arguments alone, by the pieces between the
commas of a value.
-/

namespace GuestLaunch

/-- What follows a fragment at the start of a text. -/
def afterStart? (fragment text : String) : Option String :=
  if Text.startsWith text fragment then
    some (String.ofList (text.toList.drop fragment.toList.length))
  else
    none

theorem afterStart?_append (fragment rest : String)
    : afterStart? fragment (fragment ++ rest) = some rest := by
  have starts : Text.startsWith (fragment ++ rest) fragment = true := by
    rw [Text.startsWith, String.toList_append, List.isPrefixOf_iff_prefix]
    exact List.prefix_append _ _
  rw [afterStart?, if_pos starts, String.toList_append, List.drop_left, String.ofList_toList]

theorem afterStart?_eq_none_iff {fragment text : String}
    : afterStart? fragment text = none ↔ ¬fragment.toList <+: text.toList := by
  rw [afterStart?, Text.startsWith, ite_eq_right_iff, List.isPrefixOf_iff_prefix]
  simp

/-- The path of a character device that listens. -/
def listeningChannel? : List String → Option String
  | [] => none
  | kind :: settings =>
      if kind = "socket" ∧ "server=on" ∈ settings then
        settings.findSome? (afterStart? "path=")
      else
        none

/-- The path of a serial port or a monitor that listens. -/
def listeningEndpoint? : List String → Option String
  | [address, server, wait] =>
      if server = "server=on" ∧ wait = "wait=off" then afterStart? "unix:" address else none
  | _ => none

/-- The path of a control socket that listens. -/
def listeningControl? : List String → Option String
  | [] => none
  | address :: settings =>
      if "server=on" ∈ settings then afterStart? "unix:" address else none

/-- The path of the unix socket on which a flag makes the hypervisor listen, by the pieces of
its value.
-/
def listeningPathIn? (word : String) (pieces : List String) : Option String :=
  if word = "-chardev" then listeningChannel? pieces
  else if word = "-serial" ∨ word = "-monitor" then listeningEndpoint? pieces
  else if word = "-qmp" then listeningControl? pieces
  else none

-----------------------------------------------------------------------------------------
-- Options
-----------------------------------------------------------------------------------------

/-- The path of the unix socket on which an option makes the hypervisor listen, if each of its
parameters is one piece of the value.
-/
def LaunchOption.listeningPath? : LaunchOption → Option String
  | toggle _ => none
  | setting flag params => listeningPathIn? flag.spelling (params.map Param.text)

/-- The paths of the unix sockets on which options make the hypervisor listen. -/
def listenedBy (options : List LaunchOption) : List String :=
  options.filterMap LaunchOption.listeningPath?

theorem listenedBy_append (first second : List LaunchOption)
    : listenedBy (first ++ second) = listenedBy first ++ listenedBy second :=
  List.filterMap_append

theorem listenedBy_flatMap {α : Type} (items : List α) (render : α → List LaunchOption)
    : listenedBy (items.flatMap render) = items.flatMap fun item => listenedBy (render item) :=
  List.filterMap_flatMap

theorem listenedBy_cons (option : LaunchOption) (rest : List LaunchOption)
    : listenedBy (option :: rest) = option.listeningPath?.toList ++ listenedBy rest := by
  rw [listenedBy, List.filterMap_cons]
  cases option.listeningPath? <;> rfl

theorem listenedBy_setting (flag : Flag) (params : List Param)
    : listenedBy [.setting flag params]
      = (listeningPathIn? flag.spelling (params.map Param.text)).toList := by
  rw [listenedBy_cons]
  exact List.append_nil _

/-- The flags whose options may listen. -/
def listeningFlags : List Flag := [.chardev, .serial, .monitor, .qmp]

theorem listeningPathIn?_of_quiet {flag : Flag} (quiet : flag ∉ listeningFlags)
    (pieces : List String)
    : listeningPathIn? flag.spelling pieces = none := by
  cases flag with
  | chardev | serial | monitor | qmp => exact absurd (by decide) quiet
  | _ => rfl

/-- Options that use no listening flag do not listen. -/
theorem UsesOnly.listenedBy_eq_nil {flags : List Flag} {options : List LaunchOption}
    (h : UsesOnly flags options) (quiet : ∀ flag ∈ flags, flag ∉ listeningFlags)
    : listenedBy options = [] := by
  apply List.filterMap_eq_nil_iff.mpr
  intro option member
  cases option with
  | toggle switch => rfl
  | setting flag params =>
      exact listeningPathIn?_of_quiet (quiet flag (h _ member flag rfl)) _

-----------------------------------------------------------------------------------------
-- Arguments
-----------------------------------------------------------------------------------------

/-- The pieces of a value, between its commas. -/
def pieces (value : String) : List String := (value.toList.splitOn ',').map String.ofList

/-- The path of the unix socket on which an option that has been read makes the hypervisor
listen.
-/
def ReadOption.listeningPath? (option : ReadOption) : Option String :=
  option.argument.bind fun value => listeningPathIn? option.word (pieces value)

/-- The paths of the unix sockets on which a command line makes the hypervisor listen. -/
def listeningPaths? (arguments : List String) : Option (List String) :=
  (readOptions arguments).map (List.filterMap ReadOption.listeningPath?)

end GuestLaunch
