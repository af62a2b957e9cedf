import GuestLaunch.Device.CharDevice

/-!
Endpoints of serial ports and monitors: a plain name, a character device that exists already,
or a socket with a path.
-/

namespace GuestLaunch
open Json Text

/-- Where a serial port or a monitor is connected to. -/
structure Endpoint where
  name : String := ""
  charDeviceId : String := ""
  backend : Option CharBackend := none
  path : String := ""
deriving DecidableEq, Repr, Inhabited

namespace Endpoint

/-- The problem of an endpoint. Without a kind, it is either a name or a character device; the
only kind is the socket, which needs a path.
-/
def problem? (endpoint : Endpoint) (label : String) : Option Problem :=
  match endpoint.backend with
  | none =>
      checkExactlyOne label "name" "chardev-id" (!endpoint.name.isEmpty)
        (!endpoint.charDeviceId.isEmpty)
  | some .socket => checkPresent label "path" endpoint.path
  | some other =>
      some (.unsupported label
        ("only supports the socket backend, found '" ++ other.name ++ "'"))

def params (endpoint : Endpoint) : List Param :=
  if endpoint.backend = some .socket then .bare ("unix:" ++ endpoint.path) :: listenParams
  else if endpoint.charDeviceId.isEmpty then [.bare endpoint.name]
  else [.bare ("chardev:" ++ endpoint.charDeviceId)]

end Endpoint

/-- A monitor for people, as opposed to programs. -/
structure Monitor where
  endpoint : Endpoint := {}
deriving DecidableEq, Repr, Inhabited

namespace Monitor

def schema : Schema Monitor where
  layout :=
    .field "name" .string "" <|
    .field "chardev-id" .string "" <|
    .field "backend" (.optional CharBackend.format) none <|
    .field "path" .string "" .done
  pack := fun (name, charDeviceId, backend, path, ()) =>
    { endpoint := { name, charDeviceId, backend, path } }
  unpack monitor :=
    (monitor.endpoint.name, monitor.endpoint.charDeviceId, monitor.endpoint.backend,
      monitor.endpoint.path, ())

def label : String := "MonitorDevice"

/-- The problem of a monitor. -/
def problem? (monitor : Monitor) : Option Problem := monitor.endpoint.problem? label

def launchOptions (monitor : Monitor) : List LaunchOption :=
  [.setting .monitor monitor.endpoint.params]

end Monitor

/-- An old serial port. -/
structure LegacySerial where
  endpoint : Endpoint := {}
  /-- Shares standard input and output between the port and the monitor. -/
  withMonitor : Bool := false
deriving DecidableEq, Repr, Inhabited

namespace LegacySerial

def schema : Schema LegacySerial where
  layout :=
    .field "chardev-id" .string "" <|
    .field "name" .string "" <|
    .field "mon-mux" .bool false <|
    .field "backend" (.optional CharBackend.format) none <|
    .field "path" .string "" .done
  pack := fun (charDeviceId, name, withMonitor, backend, path, ()) =>
    { endpoint := { name, charDeviceId, backend, path }, withMonitor }
  unpack port :=
    (port.endpoint.charDeviceId, port.endpoint.name, port.withMonitor, port.endpoint.backend,
      port.endpoint.path, ())

def label : String := "LegacySerialDevice"

/-- The problem of a port; one that is shared with the monitor has none. -/
def problem? (port : LegacySerial) : Option Problem :=
  if port.withMonitor then none else port.endpoint.problem? label

def launchOptions (port : LegacySerial) : List LaunchOption :=
  [.setting .serial
    (if port.withMonitor then [.bare "mon:stdio"] else port.endpoint.params)]

end LegacySerial

end GuestLaunch
