import GuestLaunch.Host.Transport
import GuestLaunch.Json.Layout
import GuestLaunch.LaunchOption
import GuestLaunch.Run
import GuestLaunch.Text.Fragment

/-!
What every device is rendered with: the transport that has been resolved for it, and the one
knob that reaches devices. The parameters that follow from them alone stand here.
-/

namespace GuestLaunch

def Transport.format : Json.Format Transport := .keyword Transport.all Transport.name

/-- Where a device is placed. -/
structure Placement where
  transport : Transport
  /-- Whether channel I/O devices go through the platform IOMMU. -/
  iommuPlatform : Bool := false
deriving DecidableEq, Repr

namespace Placement

/-- The property that restricts a device to the legacy protocol or not, which only devices on
PCI have.
-/
def disableModernParams (placement : Placement) (disable : Bool) : List Param :=
  if placement.transport = .pci then
    [.pair "disable-modern" (if disable then "true" else "false")]
  else
    []

/-- The option ROM of a device, which only devices on PCI have. -/
def romParams (placement : Placement) (file : String) : List Param :=
  if placement.transport = .pci then Param.unlessEmpty "romfile" file else []

/-- The property of a channel I/O device that goes through the platform IOMMU. -/
def iommuParams (placement : Placement) : List Param :=
  if placement.transport = .ccw then Param.onWhen "iommu_platform" placement.iommuPlatform
  else []

/-- The device number of a channel I/O device. -/
def deviceNumberParams (placement : Placement) (number : String) : List Param :=
  if placement.transport = .ccw then [.pair "devno" number] else []

/-- The name of a device: a driver with transports gets the suffix of its own, and any other
driver is the name.
-/
def deviceName (placement : Placement) (virtioDriver driver : String) : String :=
  if driver = virtioDriver then placement.transport.deviceName driver else driver

end Placement

/-- The address parameter of a device in a slot. -/
def slotParam (slot : Nat) : Param := .pair "addr" (Text.hexadecimalByte slot)

end GuestLaunch
