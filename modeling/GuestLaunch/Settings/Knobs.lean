import GuestLaunch.Json.Layout
import GuestLaunch.LaunchOption

/-!
Knobs: the boolean settings of the whole guest.
-/

namespace GuestLaunch
open Json

/-- The boolean settings of a guest. -/
structure Knobs where
  noUserConfig : Bool := false
  noDefaults : Bool := false
  noGraphic : Bool := false
  daemonize : Bool := false
  /-- Backs guest memory with huge pages. -/
  hugePages : Bool := false
  /-- Preallocates guest memory. -/
  memoryPrealloc : Bool := false
  /-- Backs guest memory with the file that the memory names. -/
  fileBackedMemory : Bool := false
  /-- Shares guest memory with other processes. -/
  memoryShared : Bool := false
  /-- Locks guest memory. -/
  memoryLock : Bool := false
  stopped : Bool := false
  noReboot : Bool := false
  noShutdown : Bool := false
  /-- Routes channel I/O devices through the platform IOMMU. -/
  iommuPlatform : Bool := false
  noHpet : Bool := false
  snapshot : Bool := false
deriving DecidableEq, Repr, Inhabited

namespace Knobs

def schema : Schema Knobs where
  layout :=
    .field "no-user-config" .bool false <|
    .field "no-defaults" .bool false <|
    .field "no-graphic" .bool false <|
    .field "daemonize" .bool false <|
    .field "hugepages" .bool false <|
    .field "mem-prealloc" .bool false <|
    .field "file-backed-mem" .bool false <|
    .field "mem-shared" .bool false <|
    .field "mlock" .bool false <|
    .field "stopped" .bool false <|
    .field "no-reboot" .bool false <|
    .field "no-shutdown" .bool false <|
    .field "iommu-platform" .bool false <|
    .field "no-hpet" .bool false <|
    .field "snapshot" .bool false .done
  pack := fun (noUserConfig, noDefaults, noGraphic, daemonize, hugePages, memoryPrealloc,
      fileBackedMemory, memoryShared, memoryLock, stopped, noReboot, noShutdown,
      iommuPlatform, noHpet, snapshot, ()) =>
    { noUserConfig, noDefaults, noGraphic, daemonize, hugePages, memoryPrealloc,
      fileBackedMemory, memoryShared, memoryLock, stopped, noReboot, noShutdown,
      iommuPlatform, noHpet, snapshot }
  unpack knobs :=
    (knobs.noUserConfig, knobs.noDefaults, knobs.noGraphic, knobs.daemonize, knobs.hugePages,
      knobs.memoryPrealloc, knobs.fileBackedMemory, knobs.memoryShared, knobs.memoryLock,
      knobs.stopped, knobs.noReboot, knobs.noShutdown, knobs.iommuPlatform, knobs.noHpet,
      knobs.snapshot, ())

/-- Whether a knob asks for a memory backend of its own. -/
def wantsMemoryBackend (knobs : Knobs) : Bool :=
  knobs.hugePages || knobs.fileBackedMemory || knobs.memoryShared || knobs.memoryPrealloc

/-- Each knob that is an option by itself, with that option, in the order of the command line. -/
def choices (knobs : Knobs) : List (Bool × LaunchOption) :=
  [(knobs.noUserConfig, .toggle .noUserConfig),
    (knobs.noDefaults, .toggle .noDefaults),
    (knobs.noGraphic, .toggle .noGraphic),
    (knobs.noReboot, .toggle .noReboot),
    (knobs.noShutdown, .toggle .noShutdown),
    (knobs.daemonize, .toggle .daemonize),
    (knobs.memoryLock, .setting .overcommit [.pair "mem-lock" "on"]),
    (knobs.stopped, .toggle .stopped),
    (knobs.noHpet, .toggle .noHpet),
    (knobs.snapshot, .toggle .snapshot)]

def launchOptions (knobs : Knobs) : List LaunchOption :=
  (knobs.choices.filter (·.1)).map (·.2)

end Knobs

end GuestLaunch
