import GuestLaunch.Json.Layout
import GuestLaunch.LaunchOption
import GuestLaunch.Problem

/-!
Blobs that the firmware of the guest can read by name.
-/

namespace GuestLaunch
open Json

/-- A named blob, with its contents in a file or given directly. -/
structure FirmwareBlob where
  name : String := ""
  file : String := ""
  contents : String := ""
deriving DecidableEq, Repr, Inhabited

namespace FirmwareBlob

def schema : Schema FirmwareBlob where
  layout :=
    .field "name" .string "" <|
    .field "file" .string "" <|
    .field "string" .string "" .done
  pack := fun (name, file, contents, ()) => { name, file, contents }
  unpack blob := (blob.name, blob.file, blob.contents, ())

def label : String := "FwCfg"

/-- A blob needs a name and exactly one source of its contents. -/
def problem? (blob : FirmwareBlob) : Option Problem :=
  checkPresent label "name" blob.name
    <|> checkExactlyOne label "file" "string" (!blob.file.isEmpty) (!blob.contents.isEmpty)

def launchOptions (blob : FirmwareBlob) : List LaunchOption :=
  [.setting .fwCfg
    ([.pair "name" blob.name]
      ++ Param.unlessEmpty "file" blob.file
      ++ Param.unlessEmpty "string" blob.contents)]

end FirmwareBlob

end GuestLaunch
