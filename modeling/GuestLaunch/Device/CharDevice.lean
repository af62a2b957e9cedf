import GuestLaunch.Device.Placement
import GuestLaunch.Problem

/-!
Character devices: an endpoint on the host and, unless the device is an old serial port, a
device in the guest that is connected to it.
-/

namespace GuestLaunch
open Json Text

/-- The kinds of endpoint on the host. -/
inductive CharBackend where
  | pipe
  /-- A socket on which the hypervisor listens. -/
  | socket
  | console
  | serial
  | tty
  | pty
  | file
  | stdio
  | spicevmc
deriving DecidableEq, Repr, Inhabited

namespace CharBackend

def all : List CharBackend :=
  [pipe, socket, console, serial, tty, pty, file, stdio, spicevmc]

def name : CharBackend → String
  | pipe => "pipe"
  | socket => "socket"
  | console => "console"
  | serial => "serial"
  | tty => "tty"
  | pty => "pty"
  | file => "file"
  | stdio => "stdio"
  | spicevmc => "spicevmc"

def format : Format CharBackend := .keyword all name

end CharBackend

/-- The parameters of a socket on which the hypervisor listens without waiting for a client. -/
def listenParams : List Param := [.pair "server" "on", .pair "wait" "off"]

/-- The driver of virtio serial controllers. -/
def virtioSerialDriver : String := "virtio-serial"

/-- A character device. -/
structure CharDevice where
  backend : CharBackend := .socket
  driver : String := ""
  bus : String := ""
  /-- The identifier of the device in the guest. -/
  deviceId : String := ""
  /-- The identifier of the endpoint. -/
  id : String := ""
  path : String := ""
  /-- The name of the port that the guest sees. -/
  name : String := ""
  disableModern : Bool := false
  romFile : String := ""
  deviceNumber : String := ""
  transport : Option Transport := none
  multiplex : String := ""
  signal : String := ""
deriving DecidableEq, Repr, Inhabited

namespace CharDevice

def schema : Schema CharDevice where
  layout :=
    .field "backend" CharBackend.format .socket <|
    .field "driver" .string "" <|
    .field "bus" .string "" <|
    .field "device-id" .string "" <|
    .field "id" .string "" <|
    .field "path" .string "" <|
    .field "name" .string "" <|
    .field "disable-modern" .bool false <|
    .field "rom-file" .string "" <|
    .field "devno" .string "" <|
    .field "transport" (.optional Transport.format) none <|
    .field "multiplex" .string "" <|
    .field "signal" .string "" .done
  pack := fun (backend, driver, bus, deviceId, id, path, name, disableModern, romFile,
      deviceNumber, transport, multiplex, signal, ()) =>
    { backend, driver, bus, deviceId, id, path, name, disableModern, romFile, deviceNumber,
      transport, multiplex, signal }
  unpack device :=
    (device.backend, device.driver, device.bus, device.deviceId, device.id, device.path,
      device.name, device.disableModern, device.romFile, device.deviceNumber,
      device.transport, device.multiplex, device.signal, ())

def label : String := "CharDevice"

/-- The first problem of a character device. Only standard input and output need no path. -/
def problem? (device : CharDevice) : Option Problem :=
  checkPresent label "id" device.id
    <|> (if device.backend = .stdio then none else checkPresent label "path" device.path)
    <|> checkOnOff label "multiplex" device.multiplex
    <|> checkOnOff label "signal" device.signal

/-- Whether the device in the guest is a virtio serial controller. -/
def isVirtio (device : CharDevice) : Bool := device.driver == virtioSerialDriver

/-- Parameters that only a virtio serial controller has. -/
def virtioParams (device : CharDevice) (params : List Param) : List Param :=
  if device.isVirtio then params else []

/-- The parameters of the device in the guest. -/
def deviceParams (device : CharDevice) (placement : Placement) : List Param :=
  [.bare (placement.deviceName virtioSerialDriver device.driver)]
    ++ device.virtioParams (placement.disableModernParams device.disableModern)
    ++ Param.unlessEmpty "bus" device.bus
    ++ [.pair "chardev" device.id, .pair "id" device.deviceId]
    ++ Param.unlessEmpty "name" device.name
    ++ device.virtioParams
      (placement.romParams device.romFile
        ++ placement.iommuParams
        ++ placement.deviceNumberParams device.deviceNumber)

/-- The parameters of the place that an endpoint has in the file system. -/
def pathParams (device : CharDevice) : List Param :=
  match device.backend with
  | .socket => .pair "path" device.path :: listenParams
  | .file => [.pair "path" device.path]
  | _ => []

/-- The parameters of the endpoint. -/
def endpointParams (device : CharDevice) : List Param :=
  [.bare device.backend.name, .pair "id" device.id]
    ++ device.pathParams
    ++ Param.unlessEmpty "mux" device.multiplex
    ++ Param.unlessEmpty "signal" device.signal

/-- The driver of old serial ports. -/
def serialDriver : String := "serial"

/-- The driver of serial ports on a PCI card. -/
def pciSerialDriver : String := "pci-serial"

/-- The options of the device in the guest. Serial ports have options of their own, and for a
PCI card the default port is removed.
-/
def guestOptions (device : CharDevice) (placement : Placement) : List LaunchOption :=
  if device.driver = serialDriver then []
  else if device.driver = pciSerialDriver then [.value .serial "none"]
  else [.setting .device (device.deviceParams placement)]

def launchOptions (device : CharDevice) (placement : Placement) : List LaunchOption :=
  device.guestOptions placement ++ [.setting .chardev device.endpointParams]

end CharDevice

end GuestLaunch
