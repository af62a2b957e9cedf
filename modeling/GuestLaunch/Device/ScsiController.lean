import GuestLaunch.Device.Placement
import GuestLaunch.Problem

/-!
SCSI controllers, to which SCSI disks are attached. On PCI a controller takes a slot.
-/

namespace GuestLaunch
open Json Text

/-- A SCSI controller. -/
structure ScsiController where
  id : String := ""
  bus : String := ""
  address : String := ""
  disableModern : Bool := false
  /-- The thread that serves the controller, which the controller also declares. -/
  ioThread : String := ""
  romFile : String := ""
  deviceNumber : String := ""
  transport : Option Transport := none
deriving DecidableEq, Repr, Inhabited

namespace ScsiController

def schema : Schema ScsiController where
  layout :=
    .field "id" .string "" <|
    .field "bus" .string "" <|
    .field "addr" .string "" <|
    .field "disable-modern" .bool false <|
    .field "iothread" .string "" <|
    .field "rom-file" .string "" <|
    .field "devno" .string "" <|
    .field "transport" (.optional Transport.format) none .done
  pack := fun (id, bus, address, disableModern, ioThread, romFile, deviceNumber, transport,
      ()) =>
    { id, bus, address, disableModern, ioThread, romFile, deviceNumber, transport }
  unpack controller :=
    (controller.id, controller.bus, controller.address, controller.disableModern,
      controller.ioThread, controller.romFile, controller.deviceNumber, controller.transport,
      ())

def label : String := "SCSIController"

/-- A controller needs an identifier. -/
def problem? (controller : ScsiController) : Option Problem :=
  checkPresent label "id" controller.id

/-- How long the thread of a controller polls, in nanoseconds. -/
def pollLimit : Nat := 32

/-- The slot of a controller on PCI and the bus of the slot. -/
def slotParams (controller : ScsiController) (slot : Nat) : List Param :=
  [slotParam slot, .pair "bus" (orElse controller.bus pcieRootBus)]

def params (controller : ScsiController) (placement : Placement) (slot : Option Nat)
    : List Param :=
  [.bare (placement.transport.deviceName "virtio-scsi"), .pair "id" controller.id]
    ++ (slot.map controller.slotParams).getD []
    ++ placement.disableModernParams controller.disableModern
    ++ Param.unlessEmpty "iothread" controller.ioThread
    ++ placement.romParams controller.romFile
    ++ placement.iommuParams
    ++ placement.deviceNumberParams controller.deviceNumber

/-- The object for the thread of a controller. -/
def threadOptions (controller : ScsiController) : List LaunchOption :=
  if controller.ioThread.isEmpty then []
  else
    [.setting .object
      [.bare "iothread", .pair "poll-max-ns" (decimal pollLimit),
        .pair "id" controller.ioThread]]

/-- Takes a slot for a controller on PCI and renders it. -/
def render (controller : ScsiController) (placement : Placement)
    : Render (List LaunchOption) := do
  let slot ←
    if placement.transport = .pci then some <$> Render.allocateSlot controller.address
    else pure none
  pure (.setting .device (controller.params placement slot) :: controller.threadOptions)

end ScsiController

end GuestLaunch
