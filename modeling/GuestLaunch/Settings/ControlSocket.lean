import GuestLaunch.Json.Layout
import GuestLaunch.LaunchOption
import GuestLaunch.Problem

/-!
Sockets for the control protocol of the hypervisor.
-/

namespace GuestLaunch
open Json

/-- A socket that speaks the control protocol. -/
structure ControlSocket where
  /-- The family of the socket, of which only `unix` is supported. -/
  type : String := "unix"
  name : String := ""
  /-- Listens instead of connecting. -/
  server : Bool := false
  /-- Starts without waiting for a client, which only a server does. -/
  noWait : Bool := false
deriving DecidableEq, Repr, Inhabited

namespace ControlSocket

/-- The supported family. -/
def unixType : String := "unix"

def schema : Schema ControlSocket where
  layout :=
    .field "type" .string unixType <|
    .field "name" .string "" <|
    .field "server" .bool false <|
    .field "no-wait" .bool false .done
  pack := fun (type, name, server, noWait, ()) => { type, name, server, noWait }
  unpack socket := (socket.type, socket.name, socket.server, socket.noWait, ())

/-- Whether the socket belongs to the supported family. -/
def isUnix (socket : ControlSocket) : Bool := socket.type == unixType

def label : String := "QMPSocket"

/-- A socket needs a type and a name, and its type has to be supported. -/
def problem? (socket : ControlSocket) : Option Problem :=
  checkPresent label "type" socket.type
    <|> checkPresent label "name" socket.name
    <|> checkOneOf label "type" socket.type [unixType] "'unix'"

def launchOptions (socket : ControlSocket) : List LaunchOption :=
  [.setting .qmp
    ([.bare (socket.type ++ ":" ++ socket.name)]
      ++ (if socket.server then
          .pair "server" "on" :: (if socket.noWait then [.pair "wait" "off"] else [])
        else
          []))]

end ControlSocket

end GuestLaunch
