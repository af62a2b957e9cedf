import GuestLaunch.Host.Architecture

/-!
Transports: the bus families on which a virtio device can sit. A device takes the transport
it names, and else the one that goes with the host and the machine type.
-/

namespace GuestLaunch

/-- The bus family of a virtio device. -/
inductive Transport where
  /-- PCI and PCI Express. -/
  | pci
  /-- Channel I/O. -/
  | ccw
  /-- Memory-mapped registers. -/
  | mmio
deriving DecidableEq, Repr, Inhabited

namespace Transport

/-- All transports. -/
def all : List Transport := [pci, ccw, mmio]

def name : Transport → String
  | pci => "pci"
  | ccw => "ccw"
  | mmio => "mmio"

/-- The ending of a device name on a transport. -/
def suffix : Transport → String
  | pci => "pci"
  | ccw => "ccw"
  | mmio => "device"

/-- The name of a virtio device on a transport. -/
def deviceName (transport : Transport) (base : String) : String :=
  base ++ "-" ++ transport.suffix

end Transport

/-- The transport of devices that name none. -/
def Host.defaultTransport (host : Host) : Transport :=
  match host.architecture with
  | .x86_64 | .x86 => if host.machineType = microvm then .mmio else .pci
  | .s390x => .ccw
  | _ => .pci

/-- The transport of a device: its own choice, and else the default of the host. -/
def Host.resolveTransport (host : Host) (choice : Option Transport) : Transport :=
  choice.getD host.defaultTransport

end GuestLaunch
