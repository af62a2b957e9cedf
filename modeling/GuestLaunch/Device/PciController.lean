import GuestLaunch.Device.Placement
import GuestLaunch.Problem

/-!
Controllers that are PCI devices on every host: IDE and AHCI controllers, and USB controllers.
They always take a slot.
-/

namespace GuestLaunch
open Json Text

/-- An IDE, AHCI or USB controller. -/
structure PciController where
  id : String := ""
  driver : String := ""
  /-- The bus of the controller, which only IDE and AHCI controllers render. -/
  bus : String := ""
  address : String := ""
  romFile : String := ""
  romBar : String := ""
  multifunction : Bool := false
deriving DecidableEq, Repr, Inhabited

namespace PciController

def schema : Schema PciController where
  layout :=
    .field "id" .string "" <|
    .field "driver" .string "" <|
    .field "bus" .string "" <|
    .field "addr" .string "" <|
    .field "rom-file" .string "" <|
    .field "rom-bar" .string "" <|
    .field "multifunction" .bool false .done
  pack := fun (id, driver, bus, address, romFile, romBar, multifunction, ()) =>
    { id, driver, bus, address, romFile, romBar, multifunction }
  unpack controller :=
    (controller.id, controller.driver, controller.bus, controller.address,
      controller.romFile, controller.romBar, controller.multifunction, ())

/-- An IDE controller with a driver and an identifier. -/
def ide (driver id : String) : PciController := { driver, id }

/-- A USB 3 controller with an identifier. -/
def xhci (id : String) : PciController := { driver := "qemu-xhci", id }

/-- The label of an IDE controller in problems. -/
def ideLabel : String := "IDEController"

/-- The label of a USB controller in problems. -/
def usbLabel : String := "USBController"

/-- A controller needs an identifier and a driver. -/
def problem? (controller : PciController) (label : String) : Option Problem :=
  checkPresent label "id" controller.id <|> checkPresent label "driver" controller.driver

/-- The bus of an IDE controller. -/
def busParams (controller : PciController) : List Param :=
  [.pair "bus" (orElse controller.bus pcieRootBus)]

/-- The parameters of a controller in a slot, with the parameters of its bus. -/
def params (controller : PciController) (slot : Nat) (busParams : List Param)
    : List Param :=
  [.bare controller.driver, .pair "id" controller.id, slotParam slot]
    ++ busParams
    ++ Param.unlessEmpty "romfile" controller.romFile
    ++ Param.unlessEmpty "rombar" controller.romBar
    ++ Param.onWhen "multifunction" controller.multifunction

/-- Takes a slot for an IDE controller and renders it. -/
def renderIde (controller : PciController) : Render (List LaunchOption) := do
  let slot ← Render.allocateSlot controller.address
  pure [.setting .device (controller.params slot controller.busParams)]

/-- Takes a slot for a USB controller and renders it. -/
def renderUsb (controller : PciController) : Render (List LaunchOption) := do
  let slot ← Render.allocateSlot controller.address
  pure [.setting .device (controller.params slot [])]

end PciController

end GuestLaunch
