import GuestLaunch.Device.Balloon
import GuestLaunch.Device.Bridge
import GuestLaunch.Device.Disk
import GuestLaunch.Device.Endpoint
import GuestLaunch.Device.EntropySource
import GuestLaunch.Device.FlashPair
import GuestLaunch.Device.NetDevice
import GuestLaunch.Device.PciController
import GuestLaunch.Device.RootPort
import GuestLaunch.Device.ScsiController
import GuestLaunch.Device.Spice
import GuestLaunch.Device.Tpm
import GuestLaunch.Device.VirtioSerial

/-!
The catalogue of devices. Every device has a label, may have an identifier, a transport of its
own choice and a boot index, can be checked without any state, and can be rendered.
-/

namespace GuestLaunch

/-- A device of any kind. -/
inductive Device where
  | rootPort (device : RootPort)
  | bridge (device : Bridge)
  | scsi (device : ScsiController)
  | ide (device : PciController)
  | usb (device : PciController)
  | disk (device : Disk)
  | char (device : CharDevice)
  | legacySerial (device : LegacySerial)
  | monitor (device : Monitor)
  | net (device : NetDevice)
  | entropy (device : EntropySource)
  | balloon (device : Balloon)
  | virtioSerial (device : VirtioSerial)
  | flash (device : FlashPair)
  | spice (device : Spice)
  | tpm (device : Tpm)
deriving DecidableEq, Repr

namespace Device

def label : Device → String
  | rootPort _ => RootPort.label
  | bridge _ => Bridge.label
  | scsi _ => ScsiController.label
  | ide _ => PciController.ideLabel
  | usb _ => PciController.usbLabel
  | disk _ => Disk.label
  | char _ => CharDevice.label
  | legacySerial _ => LegacySerial.label
  | monitor _ => Monitor.label
  | net _ => NetDevice.label
  | entropy _ => EntropySource.label
  | balloon _ => Balloon.label
  | virtioSerial _ => VirtioSerial.label
  | flash _ => FlashPair.label
  | spice _ => Spice.label
  | tpm _ => Tpm.label

/-- The identifier field of a device; some kinds have none. -/
def idField? : Device → Option String
  | rootPort device => some device.id
  | bridge device => some device.id
  | scsi device => some device.id
  | ide device => some device.id
  | usb device => some device.id
  | disk device => some device.id
  | char device => some device.id
  | legacySerial _ => none
  | monitor _ => none
  | net device => some device.id
  | entropy device => some device.id
  | balloon device => some device.id
  | virtioSerial device => some device.id
  | flash _ => none
  | spice device => some device.id
  | tpm device => some device.id

/-- The identifier of a device, if it is set. -/
def id? (device : Device) : Option String := device.idField?.filter fun id => !id.isEmpty

def problem? : Device → Option Problem
  | rootPort device => device.problem?
  | bridge device => device.problem?
  | scsi device => device.problem?
  | ide device => device.problem? PciController.ideLabel
  | usb device => device.problem? PciController.usbLabel
  | disk device => device.problem?
  | char device => device.problem?
  | legacySerial device => device.problem?
  | monitor device => device.problem?
  | net device => device.problem?
  | entropy device => device.problem?
  | balloon device => device.problem?
  | virtioSerial device => device.problem?
  | flash device => device.problem?
  | spice device => device.problem?
  | tpm device => device.problem?

/-- The transport that a device chooses for itself. -/
def transport? : Device → Option Transport
  | rootPort device => device.transport
  | scsi device => device.transport
  | disk device => device.transport
  | char device => device.transport
  | net device => device.transport
  | entropy device => device.transport
  | balloon device => device.transport
  | virtioSerial device => device.transport
  | _ => none

/-- The configured boot index of a device. -/
def bootIndex? : Device → Option String
  | disk device => device.bootIndex
  | net device => device.bootIndex
  | _ => none

/-- Renders a device. Only a trusted platform module depends on the architecture. -/
def render (device : Device) (placement : Placement) (architecture : Architecture)
    : Render (List LaunchOption) :=
  match device with
  | rootPort device => device.render placement
  | bridge device => device.render placement
  | scsi device => device.render placement
  | ide device => device.renderIde
  | usb device => device.renderUsb
  | disk device => device.render placement
  | char device => pure (device.launchOptions placement)
  | legacySerial device => pure device.launchOptions
  | monitor device => pure device.launchOptions
  | net device => device.render placement
  | entropy device => device.render placement
  | balloon device => pure (device.launchOptions placement)
  | virtioSerial device => pure (device.launchOptions placement)
  | flash device => pure device.launchOptions
  | spice device => pure device.launchOptions
  | tpm device => pure (device.launchOptions architecture)

end Device

end GuestLaunch
