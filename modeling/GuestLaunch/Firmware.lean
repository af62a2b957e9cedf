import GuestLaunch.Device.FlashPair

/-!
Firmware that is installed on the host. A firmware family has a directory of its own below a
root; in it, pairs of images are tried from the most to the least specific one. A file system
is given by the paths of its regular files.
-/

namespace GuestLaunch

/-- Why firmware is not at hand. -/
inductive FirmwareError where
  /-- These images of a pair are no regular files. -/
  | missingFiles (paths : List String)
  /-- A firmware family has no complete pair in its directory. -/
  | notFound (family directory : String)
deriving DecidableEq, Repr

def FirmwareError.message : FirmwareError → String
  | missingFiles paths =>
      "firmware images not found: "
        ++ ", ".intercalate (paths.map fun path => "'" ++ path ++ "'")
  | notFound family directory =>
      family ++ "VMF code and vars missing, check " ++ directory

/-- A path below another one. A path from the root of the file system stands for itself. -/
def joinPath (base name : String) : String :=
  if Text.startsWith name "/" || base.isEmpty then name
  else if Text.endsWith base "/" then base ++ name
  else base ++ "/" ++ name

/-- The directory in which distributions install firmware. -/
def defaultFirmwareRoot : String := "/usr/share"

/-- The letters before the name of the firmware family of an architecture. -/
def Architecture.firmwareFamily : Architecture → String
  | x86_64 => "O"
  | aarch64 => "AA"
  | _ => ""

/-- A layout of firmware: what the names of its two images have before their ending, and
whether only x86 with 64 bits has it.
-/
structure FirmwareLayout where
  code : String
  store : String
  x86Only : Bool
deriving DecidableEq, Repr

namespace FirmwareLayout

/-- The layouts for secure boot, the most specific one first. -/
def secure : List FirmwareLayout :=
  [⟨"_4M.secboot", "_4M.ms", true⟩, ⟨"_4M.secboot", "_4M.secboot", true⟩,
    ⟨".secboot", ".secboot", true⟩, ⟨".ms", ".ms", false⟩]

/-- The layouts without secure boot, the most specific one first. -/
def insecure : List FirmwareLayout := [⟨"_4M", "_4M", true⟩, ⟨"", "", false⟩]

/-- The layouts to be tried on an architecture. -/
def candidates (architecture : Architecture) (secureBoot : Bool) : List FirmwareLayout :=
  (if secureBoot then secure else insecure).filter fun layout =>
    !layout.x86Only || architecture == .x86_64

/-- The pair of a layout in the directory of a family. -/
def pair (layout : FirmwareLayout) (family directory : String) : FlashPair where
  code := joinPath directory (family ++ "VMF_CODE" ++ layout.code ++ ".fd")
  store := joinPath directory (family ++ "VMF_VARS" ++ layout.store ++ ".fd")

end FirmwareLayout

namespace FlashPair

/-- The images of a pair that are no regular files, the code first. -/
def missing (pair : FlashPair) (isFile : String → Bool) : List String :=
  [pair.code, pair.store].filter fun path => !isFile path

/-- Checks that both images of a pair are regular files. -/
def checkInstalled (pair : FlashPair) (isFile : String → Bool) : Except FirmwareError Unit :=
  match pair.missing isFile with
  | [] => .ok ()
  | paths => .error (.missingFiles paths)

/-- The directory of the firmware family of an architecture. -/
def familyDirectory (root : String) (architecture : Architecture) : String :=
  joinPath root (architecture.firmwareFamily ++ "VMF")

/-- The pairs that may be installed for an architecture, in the order of preference. -/
def candidates (root : String) (architecture : Architecture) (secureBoot : Bool)
    : List FlashPair :=
  (FirmwareLayout.candidates architecture secureBoot).map fun layout =>
    layout.pair architecture.firmwareFamily (familyDirectory root architecture)

/-- Finds the first candidate of which both images are installed. The root is a path of Unicode
text, which a lossy conversion of paths to text leaves as it is.
-/
def discover (isFile : String → Bool) (root : String) (architecture : Architecture)
    (secureBoot : Bool) : Except FirmwareError FlashPair :=
  match (candidates root architecture secureBoot).find? fun pair =>
      (pair.missing isFile).isEmpty with
  | some pair => .ok pair
  | none =>
      .error (.notFound architecture.firmwareFamily (familyDirectory root architecture))

end FlashPair

end GuestLaunch
