/-!
The log of an assembly: what it did, and which settings it skipped.
-/

namespace GuestLaunch

/-- How serious an entry of the log is. -/
inductive LogLevel where
  /-- Progress. -/
  | info
  /-- A setting was skipped. -/
  | warning
  /-- A setting was malformed and skipped. -/
  | error
deriving DecidableEq, Repr

def LogLevel.name : LogLevel → String
  | info => "info"
  | warning => "warn"
  | error => "error"

/-- An entry of the log. -/
structure LogEntry where
  level : LogLevel
  text : String
deriving DecidableEq, Repr

/-- The name under which the entries of an assembly are published. -/
def logTarget : String := "qcmd::assemble"

end GuestLaunch
