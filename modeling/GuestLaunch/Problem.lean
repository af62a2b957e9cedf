import GuestLaunch.Text.Numeral

/-!
Problems: settings that are missing, malformed or in conflict, the text that reports each,
and the checks that several kinds of settings share. The subject of a problem is the label
of the setting or device that has it.
-/

namespace GuestLaunch

/-- What is wrong with a setting. -/
inductive Problem where
  /-- A required field is empty. -/
  | missing (subject field : String)
  /-- Two fields are set that exclude each other. -/
  | exclusive (subject first second : String)
  /-- Neither of two fields is set. -/
  | oneRequired (subject first second : String)
  /-- A field holds a value of the wrong form. -/
  | invalidValue (subject field value expected : String)
  /-- The hypervisor cannot express a combination of settings. -/
  | unsupported (subject detail : String)
  /-- An identifier repeats one of the same category. -/
  | duplicateId (subject id : String)
  /-- The greatest number of processors is below the number at boot. -/
  | tooFewProcessors (greatest atBoot : UInt32)
deriving DecidableEq, Repr

namespace Problem

def message : Problem → String
  | missing subject field => subject ++ " is missing required field `" ++ field ++ "`"
  | exclusive subject first second =>
      subject ++ " fields `" ++ first ++ "` and `" ++ second ++ "` are mutually exclusive"
  | oneRequired subject first second =>
      subject ++ " requires either `" ++ first ++ "` or `" ++ second ++ "` to be set"
  | invalidValue subject field value expected =>
      subject ++ " field `" ++ field ++ "` has invalid value '" ++ value ++ "', expected "
        ++ expected
  | unsupported subject detail => subject ++ " " ++ detail
  | duplicateId subject id => subject ++ " identifier '" ++ id ++ "' is used more than once"
  | tooFewProcessors greatest atBoot =>
      "MaxCPUs " ++ Text.decimal greatest.toNat ++ " must be equal to or greater than CPUs "
        ++ Text.decimal atBoot.toNat

/-- The text that reports all problems of a configuration, one on each line. -/
def summary (problems : List Problem) : String :=
  Text.decimal problems.length ++ " invalid setting(s)"
    ++ String.join (problems.map fun problem => "\n  - " ++ problem.message)

end Problem

/-- The problems that a sequence of checks finds, in its order. -/
def problemsOf (checks : List (Option Problem)) : List Problem := checks.filterMap id

/-- Checks that a field is set. -/
def checkPresent (subject field value : String) : Option Problem :=
  if value.isEmpty then some (.missing subject field) else none

/-- Checks that a field is empty or holds one of the allowed values. -/
def checkOneOf (subject field value : String) (allowed : List String) (expected : String)
    : Option Problem :=
  if value.isEmpty || allowed.contains value then none
  else some (.invalidValue subject field value expected)

/-- Checks that a field is empty, `on` or `off`. -/
def checkOnOff (subject field value : String) : Option Problem :=
  checkOneOf subject field value ["on", "off"] "'on' or 'off'"

/-- Checks that exactly one of two fields is set, given whether each of them is. -/
def checkExactlyOne (subject first second : String) (firstSet secondSet : Bool)
    : Option Problem :=
  match firstSet, secondSet with
  | false, false => some (.oneRequired subject first second)
  | true, true => some (.exclusive subject first second)
  | _, _ => none

end GuestLaunch
