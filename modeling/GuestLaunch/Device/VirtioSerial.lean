import GuestLaunch.Device.CharDevice

/-!
Virtio serial controllers, whose ports are character devices.
-/

namespace GuestLaunch
open Json Text

/-- A virtio serial controller. -/
structure VirtioSerial where
  driver : String := ""
  id : String := ""
  disableModern : Bool := false
  romFile : String := ""
  deviceNumber : String := ""
  transport : Option Transport := none
  /-- The greatest number of ports, which is rendered together with an option ROM. -/
  portLimit : UInt32 := 0
deriving DecidableEq, Repr, Inhabited

namespace VirtioSerial

def schema : Schema VirtioSerial where
  layout :=
    .field "driver" .string "" <|
    .field "id" .string "" <|
    .field "disable-modern" .bool false <|
    .field "rom-file" .string "" <|
    .field "devno" .string "" <|
    .field "transport" (.optional Transport.format) none <|
    .field "max-ports" .uint32 0 .done
  pack := fun (driver, id, disableModern, romFile, deviceNumber, transport, portLimit, ()) =>
    { driver, id, disableModern, romFile, deviceNumber, transport, portLimit }
  unpack controller :=
    (controller.driver, controller.id, controller.disableModern, controller.romFile,
      controller.deviceNumber, controller.transport, controller.portLimit, ())

def label : String := "SerialDevice"

/-- A controller needs a driver and an identifier. -/
def problem? (controller : VirtioSerial) : Option Problem :=
  checkPresent label "driver" controller.driver <|> checkPresent label "id" controller.id

/-- The port limit, where there is an option ROM. -/
def portParams (controller : VirtioSerial) (placement : Placement) : List Param :=
  if placement.transport = .pci ∧ controller.romFile ≠ ""
      ∧ controller.driver = virtioSerialDriver ∧ controller.portLimit ≠ 0 then
    [.pair "max_ports" (decimal controller.portLimit.toNat)]
  else
    []

def params (controller : VirtioSerial) (placement : Placement) : List Param :=
  [.bare (placement.deviceName virtioSerialDriver controller.driver)]
    ++ placement.disableModernParams controller.disableModern
    ++ [.pair "id" controller.id]
    ++ placement.romParams controller.romFile
    ++ controller.portParams placement
    ++ placement.iommuParams
    ++ placement.deviceNumberParams controller.deviceNumber

def launchOptions (controller : VirtioSerial) (placement : Placement) : List LaunchOption :=
  [.setting .device (controller.params placement)]

end VirtioSerial

end GuestLaunch
