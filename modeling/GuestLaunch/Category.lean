import GuestLaunch.Config

/-!
Categories of devices, in the order in which they are rendered. Controllers and buses come before
the devices that refer to them, as long as a device refers to an earlier category: the controllers
of serial ports come behind the character devices, and a root port on the bus of a bridge comes
before it, as every device does that refers to a later category.
-/

namespace GuestLaunch

/-- A category of devices. -/
inductive Category where
  | rootPort
  | bridge
  | scsi
  | ide
  | usb
  | disk
  | char
  | legacySerial
  | monitor
  | net
  | entropy
  | balloon
  | virtioSerial
  | flash
deriving DecidableEq, Repr

namespace Category

def all : List Category :=
  [rootPort, bridge, scsi, ide, usb, disk, char, legacySerial, monitor, net, entropy, balloon,
    virtioSerial, flash]

/-- The key of a category in a configuration. -/
def label : Category → String
  | rootPort => "pcie-root-port-devices"
  | bridge => "pci-bridge-devices"
  | scsi => "scsi-controller-devices"
  | ide => "ide-controller-devices"
  | usb => "usb-controller-devices"
  | disk => "blk-devices"
  | char => "char-devices"
  | legacySerial => "legacy-serial-devices"
  | monitor => "monitor-devices"
  | net => "net-devices"
  | entropy => "rng-devices"
  | balloon => "balloon-devices"
  | virtioSerial => "serial-devices"
  | flash => "uefi-firmware-devices"

/-- The devices of a category in the order of the configuration. -/
def devices (config : Config) : Category → List Device
  | rootPort => config.rootPorts.map .rootPort
  | bridge => config.bridges.map .bridge
  | scsi => config.scsiControllers.map .scsi
  | ide => config.ideControllers.map .ide
  | usb => config.usbControllers.map .usb
  | disk => config.disks.map .disk
  | char => config.charDevices.map .char
  | legacySerial => config.legacySerials.map .legacySerial
  | monitor => config.monitors.map .monitor
  | net => config.netDevices.map .net
  | entropy => config.entropySources.map .entropy
  | balloon => config.balloons.map .balloon
  | virtioSerial => config.virtioSerials.map .virtioSerial
  | flash => config.flashPairs.map .flash

end Category

/-- All devices of a configuration, category by category. -/
def Config.devices (config : Config) : List Device :=
  Category.all.flatMap (Category.devices config)

end GuestLaunch
