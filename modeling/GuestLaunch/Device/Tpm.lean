import GuestLaunch.Device.CharDevice

/-!
Trusted platform modules: a socket to the module on the host, the backend that uses it, and
the device in the guest.
-/

namespace GuestLaunch
open Json Text

/-- A trusted platform module. -/
structure Tpm where
  id : String := ""
  driver : String := ""
  /-- The backend: an emulator, or the module of the host. -/
  type : String := ""
  path : String := ""
deriving DecidableEq, Repr, Inhabited

namespace Tpm

def schema : Schema Tpm where
  layout :=
    .field "id" .string "" <|
    .field "driver" .string "" <|
    .field "type" .string "" <|
    .field "path" .string "" .done
  pack := fun (id, driver, type, path, ()) => { id, driver, type, path }
  unpack tpm := (tpm.id, tpm.driver, tpm.type, tpm.path, ())

def label : String := "TPMDevice"

def problem? (tpm : Tpm) : Option Problem :=
  checkPresent label "id" tpm.id
    <|> checkPresent label "driver" tpm.driver
    <|> checkPresent label "path" tpm.path
    <|> checkPresent label "type" tpm.type
    <|> checkOneOf label "type" tpm.type ["emulator", "passthrough"]
      "'emulator' or 'passthrough'"

/-- The name of the device in the guest, which differs on one architecture. -/
def deviceName (tpm : Tpm) (architecture : Architecture) : String :=
  if tpm.driver = "tpm-tis" ∧ architecture = .aarch64 then tpm.driver ++ "-device"
  else tpm.driver

/-- The identifier of the socket to the module. -/
def socketId (tpm : Tpm) : String := "chr" ++ tpm.id

/-- The options of a module: the socket, the backend, and the device. -/
def launchOptions (tpm : Tpm) (architecture : Architecture) : List LaunchOption :=
  [.setting .chardev
      [.bare CharBackend.socket.name, .pair "id" tpm.socketId, .pair "path" tpm.path],
    .setting .tpmdev [.bare tpm.type, .pair "id" tpm.id, .pair "chardev" tpm.socketId],
    .setting .device [.bare (tpm.deviceName architecture), .pair "tpmdev" tpm.id]]

end Tpm

end GuestLaunch
