import GuestLaunch.Json.Layout
import GuestLaunch.LaunchOption

/-!
The real-time clock of the guest. A clock with an unknown source or drift compensation is
skipped when the guest is assembled, so its validity is a question of its own.
-/

namespace GuestLaunch
open Json

/-- What the time of a clock refers to. -/
inductive ClockBase where
  | utc
  | localTime
deriving DecidableEq, Repr, Inhabited

def ClockBase.name : ClockBase → String
  | utc => "utc"
  | localTime => "localtime"

/-- The settings of `-rtc`. -/
structure Clock where
  base : ClockBase := .utc
  source : String := ""
  driftFix : String := ""
deriving DecidableEq, Repr, Inhabited

namespace Clock

def schema : Schema Clock where
  layout :=
    .field "base" (.keyword [.utc, .localTime] ClockBase.name) .utc <|
    .field "clock" .string "" <|
    .field "driftfix" .string "" .done
  pack := fun (base, source, driftFix, ()) => { base, source, driftFix }
  unpack clock := (clock.base, clock.source, clock.driftFix, ())

/-- Whether both the source and the drift compensation are known. -/
def isValid (clock : Clock) : Bool :=
  ["host", "rt", "vm"].contains clock.source && ["slew", "none"].contains clock.driftFix

def launchOptions (clock : Clock) : List LaunchOption :=
  [.setting .rtc
    ([.pair "base" clock.base.name]
      ++ Param.unlessEmpty "driftfix" clock.driftFix
      ++ Param.unlessEmpty "clock" clock.source)]

end Clock

end GuestLaunch
