import GuestLaunch.Device.Placement
import GuestLaunch.Problem

/-!
UEFI firmware in flash: a read-only image of code and a writable store of variables.
-/

namespace GuestLaunch
open Json Text

/-- The two flash images of a firmware. -/
structure FlashPair where
  code : String := ""
  store : String := ""
deriving DecidableEq, Repr, Inhabited

namespace FlashPair

def schema : Schema FlashPair where
  layout :=
    .field "uefi-code" .string "" <|
    .field "uefi-vars" .string "" .done
  pack := fun (code, store, ()) => { code, store }
  unpack pair := (pair.code, pair.store, ())

def label : String := "UEFIFirmwareDevice"

/-- A firmware needs both images. -/
def problem? (pair : FlashPair) : Option Problem :=
  checkPresent label "uefi-code" pair.code <|> checkPresent label "uefi-vars" pair.store

/-- Whether the code is a build for secure boot, by the end of its name. -/
def isSecureBoot (pair : FlashPair) : Bool := endsWith pair.code ".secboot.fd"

/-- Whether the flash has the layout of four mebibytes, by a mark in the path of the code. -/
def isFourMegabytes (pair : FlashPair) : Bool := holds pair.code "_4M"

def launchOptions (pair : FlashPair) : List LaunchOption :=
  [.setting .drive
      [.pair "if" "pflash", .pair "format" "raw", .pair "readonly" "on",
        .pair "file" pair.code],
    .setting .drive [.pair "if" "pflash", .pair "format" "raw", .pair "file" pair.store]]

end FlashPair

end GuestLaunch
