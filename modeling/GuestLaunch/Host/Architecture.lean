/-!
Architectures of the host that runs the guest. An architecture has one canonical name and may
have aliases; letter case does not matter in a name.
-/

namespace GuestLaunch

/-- The architecture of a host. -/
inductive Architecture where
  | x86_64
  | x86
  | aarch64
  | s390x
  | ppc64le
  | riscv64
  /-- Any other architecture, which gets the general defaults. -/
  | other
deriving DecidableEq, Repr, Inhabited

/-- A name that belongs to no architecture, in lower case. -/
structure UnknownArchitecture where
  name : String
deriving DecidableEq, Repr

def UnknownArchitecture.message (unknown : UnknownArchitecture) : String :=
  "unknown host architecture '" ++ unknown.name ++ "'"

namespace Architecture

/-- Every architecture with its names, the canonical one first. -/
def names : Architecture → List String
  | x86_64 => ["x86_64", "amd64"]
  | x86 => ["x86", "386", "i386", "i686"]
  | aarch64 => ["aarch64", "arm64"]
  | s390x => ["s390x"]
  | ppc64le => ["ppc64le", "powerpc64le"]
  | riscv64 => ["riscv64"]
  | other => ["other"]

/-- All architectures. -/
def all : List Architecture := [x86_64, x86, aarch64, s390x, ppc64le, riscv64, other]

/-- The canonical name. -/
def name : Architecture → String
  | x86_64 => "x86_64"
  | x86 => "x86"
  | aarch64 => "aarch64"
  | s390x => "s390x"
  | ppc64le => "ppc64le"
  | riscv64 => "riscv64"
  | other => "other"

/-- Finds the architecture that has a name, in any mixture of ASCII cases. -/
def ofName (name : String) : Except UnknownArchitecture Architecture :=
  let lower := String.ofList (name.toList.map Char.toLower)
  match all.find? fun architecture => architecture.names.contains lower with
  | some architecture => .ok architecture
  | none => .error { name := lower }

/-- Whether this is one of the two x86 architectures. -/
def isX86 : Architecture → Bool
  | x86_64 | x86 => true
  | _ => false

end Architecture

/-- The machine type without PCI and without memory nodes. -/
def microvm : String := "microvm"

/-- What of the host and the machine type the rendering of a guest depends on. -/
structure Host where
  architecture : Architecture
  machineType : String := ""
deriving DecidableEq, Repr, Inhabited

/-- Whether guest memory may be attached to a memory node. -/
def Host.hasMemoryNodes (host : Host) : Bool :=
  match host.architecture with
  | .x86_64 | .x86 | .ppc64le | .aarch64 => host.machineType != microvm
  | _ => false

end GuestLaunch
