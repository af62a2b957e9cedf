import GuestLaunch.Device.Placement
import GuestLaunch.Problem

/-!
Bridges to a conventional PCI bus. A bridge on the root bus claims the slot of its address.
-/

namespace GuestLaunch
open Json Text

/-- The two kinds of bridge. -/
inductive BridgeType where
  /-- A bridge that plugs into a conventional bus. -/
  | pci
  /-- A bridge that plugs into a bus of PCI Express. -/
  | pcie
deriving DecidableEq, Repr, Inhabited

def BridgeType.name : BridgeType → String
  | pci => "pci"
  | pcie => "pcie"

/-- A bridge. -/
structure Bridge where
  type : BridgeType := .pci
  bus : String := ""
  id : String := ""
  chassis : UInt32 := 0
  /-- Enables the standard controller for hot plugging. -/
  hotPlug : Bool := false
  address : String := ""
  romFile : String := ""
  ioReserve : String := ""
  memoryReserve : String := ""
  pref64Reserve : String := ""
deriving DecidableEq, Repr, Inhabited

namespace Bridge

def schema : Schema Bridge where
  layout :=
    .field "type" (.keyword [.pci, .pcie] BridgeType.name) .pci <|
    .field "bus" .string "" <|
    .field "id" .string "" <|
    .field "chassis" .uint32 0 <|
    .field "shpc" .bool false <|
    .field "addr" .string "" <|
    .field "rom-file" .string "" <|
    .field "io-reserve" .string "" <|
    .field "mem-reserve" .string "" <|
    .field "pref64-reserve" .string "" .done
  pack := fun (type, bus, id, chassis, hotPlug, address, romFile, ioReserve, memoryReserve,
      pref64Reserve, ()) =>
    { type, bus, id, chassis, hotPlug, address, romFile, ioReserve, memoryReserve,
      pref64Reserve }
  unpack bridge :=
    (bridge.type, bridge.bus, bridge.id, bridge.chassis, bridge.hotPlug, bridge.address,
      bridge.romFile, bridge.ioReserve, bridge.memoryReserve, bridge.pref64Reserve, ())

def label : String := "BridgeDevice"

/-- A bridge needs a bus and an identifier. -/
def problem? (bridge : Bridge) : Option Problem :=
  checkPresent label "bus" bridge.bus <|> checkPresent label "id" bridge.id

/-- The driver of a bridge with the parameters that every bridge of its kind has. -/
def identityParams (bridge : Bridge) : List Param :=
  match bridge.type with
  | .pcie => [.bare "pcie-pci-bridge", .pair "bus" bridge.bus, .pair "id" bridge.id]
  | .pci =>
      [.bare "pci-bridge", .pair "bus" bridge.bus, .pair "id" bridge.id,
        .pair "chassis_nr" (decimal bridge.chassis.toNat),
        .pair "shpc" (Param.onOff bridge.hotPlug)]

/-- The slot of a bridge, where its address is one number. -/
def addressParams (bridge : Bridge) : List Param :=
  match BusAddress.slot? bridge.address with
  | some slot => [.pair "addr" (hexadecimal slot)]
  | none => []

def params (bridge : Bridge) (placement : Placement) : List Param :=
  bridge.identityParams
    ++ bridge.addressParams
    ++ placement.romParams bridge.romFile
    ++ Param.unlessEmpty "io-reserve" bridge.ioReserve
    ++ Param.unlessEmpty "mem-reserve" bridge.memoryReserve
    ++ Param.unlessEmpty "pref64-reserve" bridge.pref64Reserve

/-- Claims the slot of a bridge and renders it. -/
def render (bridge : Bridge) (placement : Placement) : Render (List LaunchOption) := do
  Render.claimRootSlot bridge.bus bridge.address
  pure [.setting .device (bridge.params placement)]

end Bridge

end GuestLaunch
