import GuestLaunch.Device.Placement
import GuestLaunch.Problem

/-!
Entropy sources, which feed the random numbers of the host to the guest. On PCI a source takes
a slot, whatever its driver.
-/

namespace GuestLaunch
open Json Text

/-- An entropy source. -/
structure EntropySource where
  id : String := ""
  driver : String := ""
  bus : String := ""
  address : String := ""
  /-- The file of the host that the random numbers come from. -/
  filename : String := ""
  /-- How much the guest may read in one period. -/
  byteLimit : UInt32 := 0
  /-- The length of a period in milliseconds. -/
  period : UInt32 := 0
  romFile : String := ""
  deviceNumber : String := ""
  transport : Option Transport := none
deriving DecidableEq, Repr, Inhabited

namespace EntropySource

def schema : Schema EntropySource where
  layout :=
    .field "id" .string "" <|
    .field "driver" .string "" <|
    .field "bus" .string "" <|
    .field "address" .string "" <|
    .field "filename" .string "" <|
    .field "max-bytes" .uint32 0 <|
    .field "period" .uint32 0 <|
    .field "rom-file" .string "" <|
    .field "devno" .string "" <|
    .field "transport" (.optional Transport.format) none .done
  pack := fun (id, driver, bus, address, filename, byteLimit, period, romFile, deviceNumber,
      transport, ()) =>
    { id, driver, bus, address, filename, byteLimit, period, romFile, deviceNumber, transport }
  unpack source :=
    (source.id, source.driver, source.bus, source.address, source.filename, source.byteLimit,
      source.period, source.romFile, source.deviceNumber, source.transport, ())

def label : String := "RngDevice"

/-- The driver of virtio entropy sources. -/
def virtioDriver : String := "virtio-rng"

/-- A source needs an identifier and a driver. -/
def problem? (source : EntropySource) : Option Problem :=
  checkPresent label "id" source.id <|> checkPresent label "driver" source.driver

/-- The parameters of the object that reads from the host. -/
def objectParams (source : EntropySource) : List Param :=
  [.bare "rng-random", .pair "id" source.id] ++ Param.unlessEmpty "filename" source.filename

/-- A limit as a property, absent where it is zero. -/
def limitParam (key : String) (limit : UInt32) : List Param :=
  if 0 < limit then [.pair key (decimal limit.toNat)] else []

/-- The parameters of the device, with its slot. -/
def deviceParams (source : EntropySource) (placement : Placement) (slot : Option Nat)
    : List Param :=
  [.bare (placement.deviceName virtioDriver source.driver), .pair "rng" source.id]
    ++ Param.unlessEmpty "bus" source.bus
    ++ (slot.map slotParam).toList
    ++ placement.romParams source.romFile
    ++ placement.iommuParams
    ++ placement.deviceNumberParams source.deviceNumber
    ++ limitParam "max-bytes" source.byteLimit
    ++ limitParam "period" source.period

/-- Takes a slot for a source on PCI and renders it. -/
def render (source : EntropySource) (placement : Placement)
    : Render (List LaunchOption) := do
  let slot ←
    if placement.transport = .pci then some <$> Render.allocateSlot source.address
    else pure none
  pure
    [.setting .object source.objectParams,
      .setting .device (source.deviceParams placement slot)]

end EntropySource

end GuestLaunch
