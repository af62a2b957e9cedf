import GuestLaunch.Device.Placement
import GuestLaunch.Problem

/-!
Root ports of PCI Express, into which devices are plugged while the guest runs. Up to eight
ports share a slot as its functions; a port on the root bus claims the slot of its address.
-/

namespace GuestLaunch
open Json Text

/-- A root port. -/
structure RootPort where
  id : String := ""
  bus : String := ""
  chassis : String := ""
  slot : String := ""
  port : String := ""
  /-- Marks the first function of a slot that has several. -/
  multifunction : Bool := false
  /-- The address on the bus, where a function may follow the slot. -/
  address : String := ""
  busReserve : String := ""
  pref64Reserve : String := ""
  pref32Reserve : String := ""
  memoryReserve : String := ""
  ioReserve : String := ""
  romFile : String := ""
  transport : Option Transport := none
deriving DecidableEq, Repr, Inhabited

namespace RootPort

def schema : Schema RootPort where
  layout :=
    .field "id" .string "" <|
    .field "bus" .string "" <|
    .field "chassis" .string "" <|
    .field "slot" .string "" <|
    .field "port" .string "" <|
    .field "multifunction" .bool false <|
    .field "addr" .string "" <|
    .field "bus-reserve" .string "" <|
    .field "pref64-reserve" .string "" <|
    .field "pref32-reserve" .string "" <|
    .field "mem-reserve" .string "" <|
    .field "io-reserve" .string "" <|
    .field "rom-file" .string "" <|
    .field "transport" (.optional Transport.format) none .done
  pack := fun (id, bus, chassis, slot, port, multifunction, address, busReserve,
      pref64Reserve, pref32Reserve, memoryReserve, ioReserve, romFile, transport, ()) =>
    { id, bus, chassis, slot, port, multifunction, address, busReserve, pref64Reserve,
      pref32Reserve, memoryReserve, ioReserve, romFile, transport }
  unpack port :=
    (port.id, port.bus, port.chassis, port.slot, port.port, port.multifunction, port.address,
      port.busReserve, port.pref64Reserve, port.pref32Reserve, port.memoryReserve,
      port.ioReserve, port.romFile, port.transport, ())

def label : String := "PCIeRootPort"

/-- A port needs an identifier, and reserves prefetchable memory of one width only. -/
def problem? (port : RootPort) : Option Problem :=
  (if !port.pref64Reserve.isEmpty && !port.pref32Reserve.isEmpty then
      some (.exclusive label "pref64-reserve" "pref32-reserve")
    else
      none)
    <|> checkPresent label "id" port.id

/-- The address of a port that names none. -/
def defaultAddress : String := "0x00"

/-- The address at which a port is rendered. -/
def effectiveAddress (port : RootPort) : String := orElse port.address defaultAddress

/-- The multifunction mark. A port that is no first function says so only if its address has
no dot: the functions after the first follow the setting of their slot.
-/
def multifunctionParams (port : RootPort) : List Param :=
  if port.multifunction then [.pair "multifunction" "on"]
  else if port.effectiveAddress.toList.contains '.' then []
  else [.pair "multifunction" "off"]

/-- The reservations for devices behind a port. -/
def reserveParams (port : RootPort) : List Param :=
  Param.unlessEmpty "bus-reserve" port.busReserve
    ++ Param.unlessEmpty "pref64-reserve" port.pref64Reserve
    ++ Param.unlessEmpty "pref32-reserve" port.pref32Reserve
    ++ Param.unlessEmpty "mem-reserve" port.memoryReserve
    ++ Param.unlessEmpty "io-reserve" port.ioReserve

def params (port : RootPort) (placement : Placement) : List Param :=
  [.bare "pcie-root-port", .pair "id" port.id,
      .pair "bus" (orElse port.bus pcieRootBus),
      .pair "chassis" (orElse port.chassis "0x00"),
      .pair "slot" (orElse port.slot "0x00")]
    ++ Param.unlessEmpty "port" port.port
    ++ [.pair "addr" port.effectiveAddress]
    ++ port.multifunctionParams
    ++ port.reserveParams
    ++ placement.romParams port.romFile

/-- Claims the slot of a port and renders it. -/
def render (port : RootPort) (placement : Placement) : Render (List LaunchOption) := do
  Render.claimRootSlot port.bus port.effectiveAddress
  pure [.setting .device (port.params placement)]

-----------------------------------------------------------------------------------------
-- Ports that share a slot
-----------------------------------------------------------------------------------------

/-- The port for one function of a slot. -/
def ofFunction (family bus base : String) (function : Nat) : RootPort where
  id := family ++ "." ++ base ++ "." ++ decimal function
  bus := bus
  chassis := "0x" ++ hexadecimal function
  port := "0x" ++ hexadecimal function
  address := base ++ ".0x" ++ hexadecimal function
  multifunction := function == 0

/-- The ports for the first functions of a slot. Their identifiers start with the name of the
family of ports and the address of the slot, both of which must be given.
-/
def multifunctionRange (family bus base : String) (count : Nat)
    : Except Problem (List RootPort) := do
  let problem? :=
    checkPresent label "id-prefix" family
      <|> checkPresent label "base-addr" base
      <|> (if count = 0 then
          some (.invalidValue label "count" (decimal count) "at least one port")
        else
          none)
  match problem? with
  | some problem => throw problem
  | none =>
      (List.range count).mapM fun function =>
        let port := ofFunction family bus base function
        match port.problem? with
        | some problem => throw problem
        | none => pure port

end RootPort

end GuestLaunch
