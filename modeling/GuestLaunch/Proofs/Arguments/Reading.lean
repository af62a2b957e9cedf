import GuestLaunch.LaunchOption

/-!
Reading a command line back into options. A word of the command line stands for a flag by its
position alone: which arguments follow it is fixed by a table, so no text that is the value of
a flag is ever taken for a flag.
-/

namespace GuestLaunch

/-- The words that take no argument. -/
def switchWords : List String :=
  ["-no-user-config", "-nodefaults", "-nographic", "--no-reboot", "--no-shutdown",
    "-daemonize", "-S", "-no-hpet", "-snapshot"]

/-- The words that take one argument. -/
def flagWords : List String :=
  ["-name", "-uuid", "-machine", "-cpu", "-spice", "-device", "-chardev", "-tpmdev", "-smbios",
    "-qmp", "-m", "-object", "-drive", "-netdev", "-serial", "-monitor", "-rtc", "-global",
    "-pflash", "-vga", "-numa", "-overcommit", "-kernel", "-initrd", "-append", "-bios",
    "-incoming", "-pidfile", "-D", "-fw_cfg", "-sandbox", "-smp"]

/-- An option as it is read from a command line: a word, and its argument if it takes one. -/
structure ReadOption where
  word : String
  argument : Option String
deriving DecidableEq, Repr

/-- Reads options from the left, up to the end of the command line. There is no reading where a
flag is expected and another word stands, or where an argument is missing.
-/
def readOptions : List String → Option (List ReadOption)
  | [] => some []
  | word :: rest =>
      if word ∈ switchWords then
        (readOptions rest).map (List.cons { word, argument := none })
      else if word ∈ flagWords then
        match rest with
        | [] => none
        | value :: behind =>
            (readOptions behind).map (List.cons { word, argument := some value })
      else none

/-- The words that are read as flags, in their order. -/
def wordsRead (arguments : List String) : Option (List String) :=
  (readOptions arguments).map (List.map ReadOption.word)

/-- The word that an option begins with. -/
def LaunchOption.word : LaunchOption → String
  | toggle switch => switch.spelling
  | setting flag _ => flag.spelling

/-- An option as it is to be read. -/
def LaunchOption.read : LaunchOption → ReadOption
  | toggle switch => { word := switch.spelling, argument := none }
  | setting flag params => { word := flag.spelling, argument := some (joinParams params) }

theorem LaunchOption.word_read (option : LaunchOption) : option.read.word = option.word := by
  cases option with
  | toggle | setting => rfl

-----------------------------------------------------------------------------------------
-- The parameters in a value
-----------------------------------------------------------------------------------------

/-- Parameters as they follow others in a value. -/
def behindCommas : List Param → String
  | [] => ""
  | param :: rest => "," ++ param.text ++ behindCommas rest

theorem behindCommas_append (first second : List Param)
    : behindCommas (first ++ second) = behindCommas first ++ behindCommas second := by
  induction first with
  | nil => exact String.empty_append.symm
  | cons param rest ih =>
      rw [List.cons_append, behindCommas, behindCommas, ih]
      simp only [String.append_assoc]

/-- The value of a flag is its first parameter and then the others behind commas, by induction on
the others.
-/
theorem LaunchOption.joinParams_cons (first : Param) (rest : List Param)
    : joinParams (first :: rest) = first.text ++ behindCommas rest := by
  apply String.toList_inj.mp
  rw [joinParams, String.toList_intercalate, List.map_cons, List.map_cons]
  induction rest generalizing first with
  | nil => simp [behindCommas]
  | cons next others ih =>
      rw [List.map_cons, List.map_cons, List.intercalate_cons_cons, ih next, behindCommas]
      simp

theorem Param.toList_text_pair (key value : String)
    : (pair key value).text.toList = key.toList ++ '=' :: value.toList := by
  simp [text]

-----------------------------------------------------------------------------------------
-- Options that are read back
-----------------------------------------------------------------------------------------

theorem Switch.spelling_mem (switch : Switch) : switch.spelling ∈ switchWords := by
  cases switch <;> decide

theorem Flag.spelling_mem (flag : Flag) : flag.spelling ∈ flagWords := by
  cases flag <;> decide

/-- No flag is spelled like a word without an argument. -/
theorem Flag.spelling_notMem (flag : Flag) : flag.spelling ∉ switchWords := by
  cases flag <;> decide

/-- One option is read with its whole value, and what follows it is read after that. -/
theorem readOptions_arguments (option : LaunchOption) (rest : List String)
    : readOptions (option.arguments ++ rest)
      = (readOptions rest).map (List.cons option.read) := by
  cases option with
  | toggle switch =>
      show readOptions (switch.spelling :: rest) = _
      rw [readOptions.eq_def]
      exact if_pos switch.spelling_mem
  | setting flag params =>
      show readOptions (flag.spelling :: LaunchOption.joinParams params :: rest) = _
      rw [readOptions, if_neg flag.spelling_notMem, if_pos flag.spelling_mem]
      rfl

/-- The arguments of options are read back as these options, by induction on them. -/
theorem readOptions_argumentsOf (options : List LaunchOption)
    : readOptions (argumentsOf options) = some (options.map LaunchOption.read) := by
  induction options with
  | nil => rfl
  | cons option rest ih =>
      rw [argumentsOf] at ih ⊢
      rw [List.flatMap_cons, readOptions_arguments, ih]
      rfl

theorem wordsRead_argumentsOf (options : List LaunchOption)
    : wordsRead (argumentsOf options) = some (options.map LaunchOption.word) := by
  rw [wordsRead, readOptions_argumentsOf, Option.map_some, List.map_map]
  congr 1
  exact List.map_congr_left fun option _ => option.word_read

theorem argumentsOf_append (first second : List LaunchOption)
    : argumentsOf (first ++ second) = argumentsOf first ++ argumentsOf second :=
  List.flatMap_append

theorem argumentsOf_flatMap {α : Type} (items : List α) (render : α → List LaunchOption)
    : argumentsOf (items.flatMap render) = items.flatMap fun item => argumentsOf (render item) :=
  List.flatMap_assoc ..

/-- The arguments of several parts are those of the one part after the other. -/
theorem argumentsOf_flatten (parts : List (List LaunchOption))
    : argumentsOf parts.flatten = parts.flatMap argumentsOf := by
  rw [← List.flatMap_id, argumentsOf_flatMap]
  rfl

end GuestLaunch
