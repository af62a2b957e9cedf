import GuestLaunch.Device.CharDevice

/-!
Spice displays. Besides the display server there is a serial port in the guest, on which the
agent in the guest talks to the client.
-/

namespace GuestLaunch
open Json Text

/-- A Spice display. -/
structure Spice where
  id : String := ""
  port : String := ""
  hostAddress : String := ""
  tlsPort : String := ""
  /-- Lets clients connect without a password. -/
  disableTicketing : Bool := false
deriving DecidableEq, Repr, Inhabited

namespace Spice

def schema : Schema Spice where
  layout :=
    .field "id" .string "" <|
    .field "port" .string "" <|
    .field "host-address" .string "" <|
    .field "tls-port" .string "" <|
    .field "disable-ticketing" .bool false .done
  pack := fun (id, port, hostAddress, tlsPort, disableTicketing, ()) =>
    { id, port, hostAddress, tlsPort, disableTicketing }
  unpack spice :=
    (spice.id, spice.port, spice.hostAddress, spice.tlsPort, spice.disableTicketing, ())

def label : String := "SpiceDevice"

/-- A display has exactly one port, with encryption or without. -/
def problem? (spice : Spice) : Option Problem :=
  checkExactlyOne label "port" "tls-port" (!spice.port.isEmpty) (!spice.tlsPort.isEmpty)

/-- The identifier of the endpoint that carries the channel of the agent. -/
def channelId : String := "spicechannel0"

/-- The name of the port that the agent looks for. -/
def portName : String := "com.redhat.spice.0"

/-- The parameters of the display server. -/
def serverParams (spice : Spice) : List Param :=
  Param.unlessEmpty "port" spice.port
    ++ Param.unlessEmpty "tls-port" spice.tlsPort
    ++ [.pair "addr" (orElse spice.hostAddress "127.0.0.1")]
    ++ Param.onWhen "disable-ticketing" spice.disableTicketing

/-- The options of a display: the server, a serial controller, its port, and the channel. -/
def launchOptions (spice : Spice) : List LaunchOption :=
  [.setting .spice spice.serverParams,
    .setting .device [.bare (Transport.pci.deviceName virtioSerialDriver)],
    .setting .device
      [.bare "virtserialport", .pair "chardev" channelId, .pair "name" portName],
    .setting .chardev
      [.bare CharBackend.spicevmc.name, .pair "id" channelId, .pair "name" "vdagent"]]

end Spice

end GuestLaunch
