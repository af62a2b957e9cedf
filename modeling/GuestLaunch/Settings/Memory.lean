import GuestLaunch.Settings.Knobs

/-!
Guest memory: its size and slots, and the backend object that some knobs ask for.
-/

namespace GuestLaunch
open Json

/-- The settings of guest memory. -/
structure Memory where
  /-- The size, with a unit where it is not in mebibytes. -/
  size : String := ""
  /-- The number of slots for memory that is added later. -/
  slots : UInt8 := 0
  /-- The greatest size with memory that is added later. -/
  greatest : String := ""
  /-- The file that backs the memory. -/
  path : String := ""
deriving DecidableEq, Repr, Inhabited

namespace Memory

def schema : Schema Memory where
  layout :=
    .field "size" .string "" <|
    .field "slots" .uint8 0 <|
    .field "max-mem" .string "" <|
    .field "path" .string "" .done
  pack := fun (size, slots, greatest, path, ()) => { size, slots, greatest, path }
  unpack memory := (memory.size, memory.slots, memory.greatest, memory.path, ())

/-- The options of guest memory; there are none without a size. -/
def launchOptions (memory : Memory) : List LaunchOption :=
  if memory.size.isEmpty then []
  else
    [.setting .memory
      ([.bare memory.size]
        ++ (if 0 < memory.slots then [.pair "slots" (Text.decimal memory.slots.toNat)] else [])
        ++ Param.unlessEmpty "maxmem" memory.greatest)]

/-- The identifier of the backend object. -/
def backendId : String := "dimm1"

/-- Where the host mounts huge pages. -/
def hugePagesPath : String := "/dev/hugepages"

/-- The driver of the backend object and the file behind it: huge pages come before a file,
and memory without either is anonymous.
-/
def backing (memory : Memory) (knobs : Knobs) : String × List Param :=
  if knobs.hugePages then ("memory-backend-file", [.pair "mem-path" hugePagesPath])
  else if knobs.fileBackedMemory && !memory.path.isEmpty then
    ("memory-backend-file", [.pair "mem-path" memory.path])
  else
    ("memory-backend-ram", [])

/-- The options of the backend object and of what it is attached to: a memory node where the
host has them, and else the machine.
-/
def backendOptions (memory : Memory) (knobs : Knobs) (asNode : Bool) : List LaunchOption :=
  if memory.size.isEmpty || !knobs.wantsMemoryBackend then []
  else
    let (driver, file) := memory.backing knobs
    [.setting .object
        ([.bare driver, .pair "id" backendId, .pair "size" memory.size] ++ file
          ++ Param.onWhen "share" knobs.memoryShared
          ++ Param.onWhen "prealloc" knobs.memoryPrealloc),
      if asNode then .setting .numa [.bare "node", .pair "memdev" backendId]
      else .setting .machine [.pair "memory-backend" backendId]]

end Memory

end GuestLaunch
