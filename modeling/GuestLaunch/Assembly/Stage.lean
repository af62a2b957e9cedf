/-!
Stages of the command line. The hypervisor reads some options in the light of earlier ones, so
the stages have a fixed order.
-/

namespace GuestLaunch

/-- A stage of the command line. -/
inductive Stage where
  | identity
  | machine
  | cpu
  | display
  | tpm
  | smbios
  | control
  | memory
  | devices
  | clock
  | globals
  | flashImages
  | vga
  | knobs
  | kernel
  | bios
  | ioThreads
  | incoming
  | files
  | firmwareBlobs
  | sandbox
  | processors
deriving DecidableEq, Repr

namespace Stage

def all : List Stage :=
  [identity, machine, cpu, display, tpm, smbios, control, memory, devices, clock, globals,
    flashImages, vga, knobs, kernel, bios, ioThreads, incoming, files, firmwareBlobs, sandbox,
    processors]

/-- The short name of a stage. -/
def label : Stage → String
  | identity => "identity"
  | machine => "machine"
  | cpu => "cpu"
  | display => "display"
  | tpm => "tpm"
  | smbios => "smbios"
  | control => "qmp"
  | memory => "memory"
  | devices => "devices"
  | clock => "rtc"
  | globals => "global"
  | flashImages => "pflash"
  | vga => "vga"
  | knobs => "knobs"
  | kernel => "kernel"
  | bios => "bios"
  | ioThreads => "iothreads"
  | incoming => "incoming"
  | files => "files"
  | firmwareBlobs => "fw_cfg"
  | sandbox => "sandbox"
  | processors => "smp"

end Stage

end GuestLaunch
