import GuestLaunch.Json.Layout
import GuestLaunch.LaunchOption
import GuestLaunch.Problem

/-!
Processors: how many there are at boot, how they are arranged, and how many there may be.
-/

namespace GuestLaunch
open Json

/-- The settings of `-smp`; a zero leaves a count open. -/
structure Processors where
  atBoot : UInt32 := 0
  cores : UInt32 := 0
  threads : UInt32 := 0
  sockets : UInt32 := 0
  greatest : UInt32 := 0
deriving DecidableEq, Repr, Inhabited

namespace Processors

def schema : Schema Processors where
  layout :=
    .field "cpus" .uint32 0 <|
    .field "cores" .uint32 0 <|
    .field "threads" .uint32 0 <|
    .field "sockets" .uint32 0 <|
    .field "max-cpus" .uint32 0 .done
  pack := fun (atBoot, cores, threads, sockets, greatest, ()) =>
    { atBoot, cores, threads, sockets, greatest }
  unpack processors :=
    (processors.atBoot, processors.cores, processors.threads, processors.sockets,
      processors.greatest, ())

/-- The problem of a greatest number, where it is set, below the number at boot. -/
def problem? (processors : Processors) : Option Problem :=
  if 0 < processors.greatest ∧ processors.greatest < processors.atBoot then
    some (.tooFewProcessors processors.greatest processors.atBoot)
  else
    none

/-- A count as a property, absent where it is zero. -/
def countParam (key : String) (count : UInt32) : List Param :=
  if 0 < count then [.pair key (Text.decimal count.toNat)] else []

/-- The options of the processors; there are none without a number at boot. -/
def launchOptions (processors : Processors) : List LaunchOption :=
  if processors.atBoot = 0 then []
  else
    [.setting .smp
      ([.bare (Text.decimal processors.atBoot.toNat)]
        ++ countParam "cores" processors.cores
        ++ countParam "threads" processors.threads
        ++ countParam "sockets" processors.sockets
        ++ countParam "maxcpus" processors.greatest)]

end Processors

end GuestLaunch
