import GuestLaunch.Device.NetBackend
import GuestLaunch.Device.Placement
import GuestLaunch.Problem

/-!
Network devices: a backend on the host and a card in the guest. The queues of a tap interface
may be given as open descriptors, which the hypervisor inherits, and the card then has several
queues, too.
-/

namespace GuestLaunch
open Json Text

/-- A network device. -/
structure NetDevice where
  type : NetType := .user
  driver : String := ""
  id : String := ""
  bus : String := ""
  /-- The address of the card, which takes a slot only if it has one. -/
  address : String := ""
  /-- Open descriptors of the queues of a tap interface. -/
  queues : List Int32 := []
  /-- Open descriptors of the accelerator in the kernel. -/
  vhostQueues : List Int32 := []
  /-- Uses the accelerator in the kernel. -/
  vhost : Bool := false
  mac : String := ""
  disableModern : Bool := false
  romFile : String := ""
  deviceNumber : String := ""
  transport : Option Transport := none
  tap : TapSettings := {}
  user : UserNetwork := {}
  multicast : MulticastSocket := {}
  bootIndex : Option String := none
deriving DecidableEq, Repr, Inhabited

namespace NetDevice

def schema : Schema NetDevice where
  layout :=
    .field "type" NetType.format .user <|
    .field "driver" .string "" <|
    .field "id" .string "" <|
    .field "bus" .string "" <|
    .field "address" .string "" <|
    .field "fds" (.list .int32) [] <|
    .field "vhost-fds" (.list .int32) [] <|
    .field "vhost-enable" .bool false <|
    .field "macaddress" .string "" <|
    .field "disable-modern" .bool false <|
    .field "rom-file" .string "" <|
    .field "devno" .string "" <|
    .field "transport" (.optional Transport.format) none <|
    .field "tap-device" TapSettings.schema.format {} <|
    .field "user-device" UserNetwork.schema.format {} <|
    .field "mcast-socket" MulticastSocket.schema.format {} <|
    .field "bootindex" (.optional .string) none .done
  pack := fun (type, driver, id, bus, address, queues, vhostQueues, vhost, mac,
      disableModern, romFile, deviceNumber, transport, tap, user, multicast, bootIndex, ()) =>
    { type, driver, id, bus, address, queues, vhostQueues, vhost, mac, disableModern, romFile,
      deviceNumber, transport, tap, user, multicast, bootIndex }
  unpack device :=
    (device.type, device.driver, device.id, device.bus, device.address, device.queues,
      device.vhostQueues, device.vhost, device.mac, device.disableModern, device.romFile,
      device.deviceNumber, device.transport, device.tap, device.user, device.multicast,
      device.bootIndex, ())

def label : String := "NetDevice"

/-- The driver of virtio cards. -/
def virtioDriver : String := "virtio-net"

/-- Checks that the kind of backend is supported. -/
def checkType (device : NetDevice) : Option Problem :=
  if device.type.isSupported then none
  else
    some (.invalidValue label "type" device.type.name
      "one of user, mcastsocket, tap, macvtap")

/-- A tap interface without open descriptors has to be named. -/
def checkTap (device : NetDevice) : Option Problem :=
  if device.type = .tap ∧ device.queues = [] then
    checkPresent label "tap-device.ifname" device.tap.interface
  else
    none

/-- A multicast group has an address and a port. -/
def checkMulticast (device : NetDevice) : Option Problem :=
  if device.type = .multicastSocket then
    checkPresent label "mcast-socket.address" device.multicast.address
      <|> checkPresent label "mcast-socket.port" device.multicast.port
  else
    none

def problem? (device : NetDevice) : Option Problem :=
  checkPresent label "id" device.id
    <|> device.checkType
    <|> device.checkTap
    <|> device.checkMulticast
    <|> BootIndex.check label device.bootIndex

-----------------------------------------------------------------------------------------
-- The backend
-----------------------------------------------------------------------------------------

/-- A list of descriptors as the child numbers them. -/
def descriptorParam (key : String) (numbers : List Nat) : Param :=
  .pair key (":".intercalate (numbers.map decimal))

/-- The descriptors of a list that is not empty, inherited and rendered under a key. -/
def inheritUnder (key : String) (descriptors : List Int32) : Render (List Param) :=
  if descriptors = [] then pure []
  else do
    let numbers ← Render.inherit descriptors
    pure [descriptorParam key numbers]

/-- The parameters of the accelerator in the kernel. -/
def vhostParams (device : NetDevice) : Render (List Param) :=
  if device.vhost then do
    let descriptors ← inheritUnder "vhostfds" device.vhostQueues
    pure (.pair "vhost" "on" :: descriptors)
  else
    pure []

/-- The parameters of a tap interface that is named. -/
def tapParams (device : NetDevice) : List Param :=
  [.pair "ifname" device.tap.interface]
    ++ Param.unlessEmpty "downscript" device.tap.downScript
    ++ Param.unlessEmpty "script" device.tap.upScript

/-- The parameters that depend on the kind of backend. Open descriptors come before the name
of a tap interface.
-/
def typeParams (device : NetDevice) : Render (List Param) :=
  match device.type with
  | .tap =>
      if device.queues = [] then pure device.tapParams
      else inheritUnder "fds" device.queues
  | .macvtap => inheritUnder "fds" device.queues
  | .user => pure device.user.params
  | .multicastSocket =>
      pure [.pair "mcast" (device.multicast.address ++ ":" ++ device.multicast.port)]
  | _ => pure []

/-- The options of the backend; some kinds have none. -/
def renderBackend (device : NetDevice) : Render (List LaunchOption) :=
  match device.type.backendKeyword? with
  | none => pure []
  | some keyword => do
      let vhost ← device.vhostParams
      let ofType ← device.typeParams
      pure [.setting .netdev ([.bare keyword, .pair "id" device.id] ++ vhost ++ ofType)]

-----------------------------------------------------------------------------------------
-- The card
-----------------------------------------------------------------------------------------

/-- The queues of a card whose backend has open descriptors. On PCI each descriptor has an
interrupt vector for either direction, and there are two more.
-/
def queueParams (device : NetDevice) (placement : Placement) : List Param :=
  if device.queues = [] then []
  else
    .pair "mq" "on"
      :: (if placement.transport = .pci then
          [.pair "vectors" (decimal (device.queues.length * 2 + 2))]
        else
          [])

/-- The parameters of a card with a name, its slot and its boot index. -/
def cardParams (device : NetDevice) (placement : Placement) (name : String)
    (slot : Option Nat) (bootIndex : Option String) : List Param :=
  [.bare name, .pair "netdev" device.id, .pair "mac" device.mac]
    ++ Param.unlessEmpty "bus" device.bus
    ++ (slot.map slotParam).toList
    ++ (bootIndex.map (Param.pair "bootindex")).toList
    ++ (if startsWith name "virtio" then placement.disableModernParams device.disableModern
      else [])
    ++ device.queueParams placement
    ++ placement.romParams device.romFile
    ++ placement.iommuParams
    ++ placement.deviceNumberParams device.deviceNumber

/-- Takes a slot and a boot index for the card, as far as they are configured, and renders it.
There is no card without a driver.
-/
def renderCard (device : NetDevice) (placement : Placement) : Render (List LaunchOption) :=
  if device.driver.isEmpty then pure []
  else do
    let slot ←
      if device.address.isEmpty then pure none
      else some <$> Render.allocateSlot device.address
    let bootIndex ← Render.resolveBootIndex device.bootIndex
    let name := placement.deviceName virtioDriver device.driver
    pure [.setting .device (device.cardParams placement name slot bootIndex)]

/-- Renders the backend and the card. A macvtap interface exists only as open descriptors, so
without them there is nothing to render.
-/
def render (device : NetDevice) (placement : Placement) : Render (List LaunchOption) :=
  if device.type = .macvtap ∧ device.queues = [] then pure []
  else do
    let backend ← device.renderBackend
    let card ← device.renderCard placement
    pure (backend ++ card)

end NetDevice

end GuestLaunch
