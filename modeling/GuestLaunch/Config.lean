import GuestLaunch.Device.Catalogue
import GuestLaunch.Settings.Clock
import GuestLaunch.Settings.ControlSocket
import GuestLaunch.Settings.FirmwareBlob
import GuestLaunch.Settings.IoThread
import GuestLaunch.Settings.KernelBoot
import GuestLaunch.Settings.Knobs
import GuestLaunch.Settings.Machine
import GuestLaunch.Settings.Memory
import GuestLaunch.Settings.Migration
import GuestLaunch.Settings.Processors
import GuestLaunch.Settings.Smbios
import GuestLaunch.Json.Parser
import GuestLaunch.Json.Printer

/-!
The configuration of a guest: its settings and one collection of devices for each category,
with its written form.
-/

namespace GuestLaunch
open Json

/-- The configuration of a guest. -/
structure Config where
  name : String := ""
  uuid : String := ""
  cpuModel : String := ""
  cpuFlags : List String := []
  sandbox : String := ""
  machine : Machine := {}
  smbios : Smbios := {}
  controlSockets : List ControlSocket := []
  rootPorts : List RootPort := []
  bridges : List Bridge := []
  scsiControllers : List ScsiController := []
  ideControllers : List PciController := []
  usbControllers : List PciController := []
  disks : List Disk := []
  charDevices : List CharDevice := []
  legacySerials : List LegacySerial := []
  monitors : List Monitor := []
  netDevices : List NetDevice := []
  entropySources : List EntropySource := []
  balloons : List Balloon := []
  virtioSerials : List VirtioSerial := []
  flashPairs : List FlashPair := []
  clock : Option Clock := none
  vga : String := ""
  spice : Option Spice := none
  tpm : Option Tpm := none
  kernel : KernelBoot := {}
  memory : Memory := {}
  processors : Processors := {}
  globalParams : List String := []
  knobs : Knobs := {}
  bios : String := ""
  flashImages : List String := []
  incoming : Migration := .absent
  firmwareBlobs : List FirmwareBlob := []
  ioThreads : List IoThread := []
  pidFile : String := ""
  logFile : String := ""
deriving DecidableEq, Repr, Inhabited

namespace Config

/-- The nesting of the configuration around the source of a migration. -/
def incomingLevel : Nat := 1

def schema : Schema Config where
  layout :=
    .field "name" .string "" <|
    .field "uuid" .string "" <|
    .field "cpu-model" .string "" <|
    .field "cpu-model-flags" (.list .string) [] <|
    .field "seccomp-sandbox" .string "" <|
    .field "machine" Machine.schema.format {} <|
    .field "smbios" Smbios.schema.format {} <|
    .field "qmp-sockets" (.list ControlSocket.schema.format) [] <|
    .field "pcie-root-port-devices" (.list RootPort.schema.format) [] <|
    .field "pci-bridge-devices" (.list Bridge.schema.format) [] <|
    .field "scsi-controller-devices" (.list ScsiController.schema.format) [] <|
    .field "ide-controller-devices" (.list PciController.schema.format) [] <|
    .field "usb-controller-devices" (.list PciController.schema.format) [] <|
    .field "blk-devices" (.list Disk.schema.format) [] <|
    .field "char-devices" (.list CharDevice.schema.format) [] <|
    .field "legacy-serial-devices" (.list LegacySerial.schema.format) [] <|
    .field "monitor-devices" (.list Monitor.schema.format) [] <|
    .field "net-devices" (.list NetDevice.schema.format) [] <|
    .field "rng-devices" (.list EntropySource.schema.format) [] <|
    .field "balloon-devices" (.list Balloon.schema.format) [] <|
    .field "serial-devices" (.list VirtioSerial.schema.format) [] <|
    .field "uefi-firmware-devices" (.list FlashPair.schema.format) [] <|
    .field "real-time-clock" (.optional Clock.schema.format) none <|
    .field "vga-mode" .string "" <|
    .field "spice" (.optional Spice.schema.format) none <|
    .field "tpm" (.optional Tpm.schema.format) none <|
    .field "kernel" KernelBoot.schema.format {} <|
    .field "memory" Memory.schema.format {} <|
    .field "smp" Processors.schema.format {} <|
    .field "global-params" (.list .string) [] <|
    .field "knobs" Knobs.schema.format {} <|
    .field "bios-path" .string "" <|
    .field "pflash-images" (.list .string) [] <|
    .field "incoming" (Migration.format incomingLevel) .absent <|
    .field "firmware-config" (.list FirmwareBlob.schema.format) [] <|
    .field "iothreads" (.list IoThread.schema.format) [] <|
    .field "pid-file" .string "" <|
    .field "log-file" .string "" .done
  pack := fun (name, uuid, cpuModel, cpuFlags, sandbox, machine, smbios, controlSockets,
      rootPorts, bridges, scsiControllers, ideControllers, usbControllers, disks,
      charDevices, legacySerials, monitors, netDevices, entropySources, balloons,
      virtioSerials, flashPairs, clock, vga, spice, tpm, kernel, memory, processors,
      globalParams, knobs, bios, flashImages, incoming, firmwareBlobs, ioThreads, pidFile,
      logFile, ()) =>
    { name, uuid, cpuModel, cpuFlags, sandbox, machine, smbios, controlSockets, rootPorts,
      bridges, scsiControllers, ideControllers, usbControllers, disks, charDevices,
      legacySerials, monitors, netDevices, entropySources, balloons, virtioSerials,
      flashPairs, clock, vga, spice, tpm, kernel, memory, processors, globalParams, knobs,
      bios, flashImages, incoming, firmwareBlobs, ioThreads, pidFile, logFile }
  unpack config :=
    (config.name, config.uuid, config.cpuModel, config.cpuFlags, config.sandbox,
      config.machine, config.smbios, config.controlSockets, config.rootPorts,
      config.bridges, config.scsiControllers, config.ideControllers, config.usbControllers,
      config.disks, config.charDevices, config.legacySerials, config.monitors,
      config.netDevices, config.entropySources, config.balloons, config.virtioSerials,
      config.flashPairs, config.clock, config.vga, config.spice, config.tpm, config.kernel,
      config.memory, config.processors, config.globalParams, config.knobs, config.bios,
      config.flashImages, config.incoming, config.firmwareBlobs, config.ioThreads,
      config.pidFile, config.logFile, ())

/-- Reads a configuration from its text. -/
def parse? (text : String) : Option Config := (Json.parse? text).bind schema.format.read?

/-- The text of a configuration. -/
def pretty (config : Config) : String := Json.pretty (schema.format.write config)

end Config

end GuestLaunch
