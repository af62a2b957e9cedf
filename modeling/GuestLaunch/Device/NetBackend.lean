import GuestLaunch.Json.Layout
import GuestLaunch.LaunchOption
import GuestLaunch.Text.Numeral

/-!
Network backends: what a network device of the guest is connected to on the host.
-/

namespace GuestLaunch
open Json Text

/-- The kinds of backend. -/
inductive NetType where
  /-- A network that the hypervisor itself provides. -/
  | user
  | multicastSocket
  | tap
  | macvtap
  | ipvtap
  | vethtap
  | vfio
  | vhostUser
deriving DecidableEq, Repr, Inhabited

namespace NetType

def all : List NetType :=
  [user, multicastSocket, tap, macvtap, ipvtap, vethtap, vfio, vhostUser]

def name : NetType → String
  | user => "user"
  | multicastSocket => "mcastsocket"
  | tap => "tap"
  | macvtap => "macvtap"
  | ipvtap => "ipvtap"
  | vethtap => "vethtap"
  | vfio => "vfio"
  | vhostUser => "vhostuser"

/-- Whether a backend of this kind is valid. -/
def isSupported : NetType → Bool
  | user | multicastSocket | tap | macvtap => true
  | _ => false

/-- The keyword of a kind of backend on the command line, if it has one. -/
def backendKeyword? : NetType → Option String
  | user => some "user"
  | multicastSocket => some "socket"
  | tap | macvtap | ipvtap | vethtap => some "tap"
  | vfio | vhostUser => none

def format : Format NetType := .keyword all name

end NetType

/-- A tap interface of the host, with the scripts that configure it. -/
structure TapSettings where
  interface : String := ""
  downScript : String := ""
  upScript : String := ""
deriving DecidableEq, Repr, Inhabited

def TapSettings.schema : Schema TapSettings where
  layout :=
    .field "ifname" .string "" <|
    .field "downscript-file" .string "" <|
    .field "upscript-file" .string "" .done
  pack := fun (interface, downScript, upScript, ()) => { interface, downScript, upScript }
  unpack tap := (tap.interface, tap.downScript, tap.upScript, ())

/-- One side of a forwarding rule. -/
structure PortAddress where
  address : String := ""
  port : UInt16 := 0
deriving DecidableEq, Repr, Inhabited

def PortAddress.schema : Schema PortAddress where
  layout :=
    .field "address" .string "" <|
    .field "port" .uint16 0 .done
  pack := fun (address, port, ()) => { address, port }
  unpack side := (side.address, side.port, ())

/-- A rule that forwards a port of the host to the guest. -/
structure PortRule where
  protocol : String := ""
  host : PortAddress := {}
  guest : PortAddress := {}
deriving DecidableEq, Repr, Inhabited

namespace PortRule

def schema : Schema PortRule where
  layout :=
    .field "protocol" .string "" <|
    .field "host-port" PortAddress.schema.format {} <|
    .field "guest-port" PortAddress.schema.format {} .done
  pack := fun (protocol, host, guest, ()) => { protocol, host, guest }
  unpack rule := (rule.protocol, rule.host, rule.guest, ())

/-- The text of a rule. -/
def text (rule : PortRule) : String :=
  rule.protocol ++ ":" ++ rule.host.address ++ ":" ++ decimal rule.host.port.toNat ++ "-"
    ++ rule.guest.address ++ ":" ++ decimal rule.guest.port.toNat

/-- The text of a rule in which nothing is set. -/
def emptyText : String := "::0-:0"

end PortRule

/-- A network that the hypervisor itself provides. -/
structure UserNetwork where
  ipv4 : Bool := false
  ipv4Network : String := ""
  rules : List PortRule := []
deriving DecidableEq, Repr, Inhabited

namespace UserNetwork

def schema : Schema UserNetwork where
  layout :=
    .field "ipv4-enable" .bool false <|
    .field "ipv4-network-address" .string "" <|
    .field "host-port-rules" (.list PortRule.schema.format) [] .done
  pack := fun (ipv4, ipv4Network, rules, ()) => { ipv4, ipv4Network, rules }
  unpack network := (network.ipv4, network.ipv4Network, network.rules, ())

/-- The forwarding rules as parameters; a rule with the text of an empty one is left out. -/
def ruleParams (network : UserNetwork) : List Param :=
  ((network.rules.map PortRule.text).filter (· != PortRule.emptyText)).map
    (Param.pair "hostfwd")

def params (network : UserNetwork) : List Param :=
  [.pair "ipv4" (Param.onOff network.ipv4)]
    ++ network.ruleParams
    ++ Param.unlessEmpty "net" network.ipv4Network

end UserNetwork

/-- A multicast group that several guests join. -/
structure MulticastSocket where
  address : String := ""
  port : String := ""
deriving DecidableEq, Repr, Inhabited

def MulticastSocket.schema : Schema MulticastSocket where
  layout :=
    .field "address" .string "" <|
    .field "port" .string "" .done
  pack := fun (address, port, ()) => { address, port }
  unpack group := (group.address, group.port, ())

end GuestLaunch
