import GuestLaunch.Device.Placement
import GuestLaunch.Problem

/-!
Disks and other drives. A disk is a drive with an image, and a device in the guest unless it
is a drive only. A virtio disk on PCI takes a slot; SCSI and IDE disks sit on a controller.
-/

namespace GuestLaunch
open Json Text

/-- How the host reads and writes an image. -/
inductive AsyncIo where
  | threads
  | native
  | ioUring
deriving DecidableEq, Repr

def AsyncIo.name : AsyncIo → String
  | threads => "threads"
  | native => "native"
  | ioUring => "io_uring"

/-- How the page cache of the host is used. -/
inductive CacheMode where
  | writeThrough
  | writeBack
  /-- The cache is bypassed. -/
  | bypass
  /-- The cache is bypassed and every write is flushed. -/
  | directSync
  /-- Requests to flush are ignored. -/
  | ignoreFlush
deriving DecidableEq, Repr

def CacheMode.name : CacheMode → String
  | writeThrough => "writethrough"
  | writeBack => "writeback"
  | bypass => "none"
  | directSync => "directsync"
  | ignoreFlush => "unsafe"

/-- What happens to the discard requests of the guest. -/
inductive DiscardMode where
  | ignore
  | unmap
deriving DecidableEq, Repr

def DiscardMode.name : DiscardMode → String
  | ignore => "ignore"
  | unmap => "unmap"

/-- Whether writes of zeroes are detected. -/
inductive ZeroDetection where
  | on
  | off
  | unmap
deriving DecidableEq, Repr

def ZeroDetection.name : ZeroDetection → String
  | on => "on"
  | off => "off"
  | unmap => "unmap"

/-- A disk, a CD drive, or another drive. -/
structure Disk where
  driver : String := ""
  id : String := ""
  file : String := ""
  interface : String := ""
  asyncIo : Option AsyncIo := none
  format : String := ""
  /-- Lets SCSI commands through. -/
  scsi : Bool := false
  /-- Shows a write cache to the guest. -/
  writeCache : Bool := false
  bootIndex : Option String := none
  media : String := ""
  blockSize : UInt32 := 0
  rotationRate : UInt32 := 0
  address : String := ""
  bus : String := ""
  serial : String := ""
  cache : Option CacheMode := none
  disableModern : Bool := false
  romFile : String := ""
  deviceNumber : String := ""
  /-- Lets other processes share the image. -/
  shared : Bool := false
  readOnly : Bool := false
  transport : Option Transport := none
  discard : Option DiscardMode := none
  detectZeroes : Option ZeroDetection := none
  /-- Renders the drive without a device. -/
  driveOnly : Bool := false
deriving DecidableEq, Repr, Inhabited

namespace Disk

/-- The format of a way to read and write. -/
def asyncIoFormat : Format AsyncIo := .keyword [.threads, .native, .ioUring] AsyncIo.name

/-- The format of a cache mode. -/
def cacheFormat : Format CacheMode :=
  .keyword [.writeThrough, .writeBack, .bypass, .directSync, .ignoreFlush] CacheMode.name

/-- The format of a discard mode. -/
def discardFormat : Format DiscardMode := .keyword [.ignore, .unmap] DiscardMode.name

/-- The format of a zero detection. -/
def detectionFormat : Format ZeroDetection :=
  .keyword [.on, .off, .unmap] ZeroDetection.name

def schema : Schema Disk where
  layout :=
    .field "driver" .string "" <|
    .field "id" .string "" <|
    .field "file" .string "" <|
    .field "interface" .string "" <|
    .field "aio" (.optional asyncIoFormat) none <|
    .field "format" .string "" <|
    .field "scsi" .bool false <|
    .field "write-cache" .bool false <|
    .field "bootindex" (.optional .string) none <|
    .field "media" .string "" <|
    .field "block-size" .uint32 0 <|
    .field "rotation-rate" .uint32 0 <|
    .field "bus-addr" .string "" <|
    .field "bus" .string "" <|
    .field "serial" .string "" <|
    .field "cache" (.optional cacheFormat) none <|
    .field "disable-modern" .bool false <|
    .field "rom-file" .string "" <|
    .field "devno" .string "" <|
    .field "share-rw" .bool false <|
    .field "read-only" .bool false <|
    .field "transport" (.optional Transport.format) none <|
    .field "discard" (.optional discardFormat) none <|
    .field "detect-zeroes" (.optional detectionFormat) none <|
    .field "drive-only" .bool false .done
  pack := fun (driver, id, file, interface, asyncIo, format, scsi, writeCache, bootIndex,
      media, blockSize, rotationRate, address, bus, serial, cache, disableModern, romFile,
      deviceNumber, shared, readOnly, transport, discard, detectZeroes, driveOnly, ()) =>
    { driver, id, file, interface, asyncIo, format, scsi, writeCache, bootIndex, media,
      blockSize, rotationRate, address, bus, serial, cache, disableModern, romFile,
      deviceNumber, shared, readOnly, transport, discard, detectZeroes, driveOnly }
  unpack disk :=
    (disk.driver, disk.id, disk.file, disk.interface, disk.asyncIo, disk.format, disk.scsi,
      disk.writeCache, disk.bootIndex, disk.media, disk.blockSize, disk.rotationRate,
      disk.address, disk.bus, disk.serial, disk.cache, disk.disableModern, disk.romFile,
      disk.deviceNumber, disk.shared, disk.readOnly, disk.transport, disk.discard,
      disk.detectZeroes, disk.driveOnly, ())

def label : String := "BlockDevice"

/-- The driver of virtio disks. -/
def virtioDriver : String := "virtio-blk"

/-- The driver of SCSI disks. -/
def scsiDriver : String := "scsi-hd"

/-- The driver of IDE CD drives. -/
def ideCdDriver : String := "ide-cd"

/-- Whether the driver is one of the virtio drivers, whatever follows the family name. -/
def hasVirtioFamily (disk : Disk) : Bool := startsWith disk.driver "virtio"

/-- Whether the disk is a virtio disk. -/
def isVirtio (disk : Disk) : Bool := disk.driver == virtioDriver

/-- Virtio disks do not rotate. -/
def checkRotation (disk : Disk) : Option Problem :=
  if 0 < disk.rotationRate && disk.hasVirtioFamily then
    some (.unsupported label
      ("'" ++ disk.id ++ "' cannot set rotation-rate on driver '" ++ disk.driver ++ "'"))
  else
    none

def problem? (disk : Disk) : Option Problem :=
  checkPresent label "id" disk.id
    <|> checkPresent label "driver" disk.driver
    <|> checkPresent label "file" disk.file
    <|> checkPresent label "interface" disk.interface
    <|> checkPresent label "format" disk.format
    <|> disk.checkRotation
    <|> BootIndex.check label disk.bootIndex

/-- A property that is present only where it is chosen. -/
def choiceParams {α : Type} (key : String) (name : α → String) (choice : Option α)
    : List Param :=
  (choice.map fun value => Param.pair key (name value)).toList

/-- The parameters of the drive. -/
def driveParams (disk : Disk) : List Param :=
  [.pair "file" disk.file, .pair "id" disk.id, .pair "if" disk.interface,
      .pair "format" disk.format]
    ++ choiceParams "aio" AsyncIo.name disk.asyncIo
    ++ choiceParams "cache" CacheMode.name disk.cache
    ++ choiceParams "discard" DiscardMode.name disk.discard
    ++ choiceParams "detect-zeroes" ZeroDetection.name disk.detectZeroes
    ++ Param.unlessEmpty "media" disk.media
    ++ Param.onWhen "readonly" disk.readOnly

/-- The slot of a virtio disk on PCI and the bus of the slot. -/
def slotParams (disk : Disk) (slot : Nat) : List Param :=
  [slotParam slot, .pair "bus" (orElse disk.bus pcieRootBus)]

/-- The bus of the controller that a SCSI disk or an IDE CD drive sits on. -/
def controllerParams (disk : Disk) : List Param :=
  (if disk.driver = scsiDriver then Param.unlessEmpty "bus" disk.bus else [])
    ++ (if disk.driver = ideCdDriver then [.pair "bus" (orElse disk.bus "ide.0")] else [])

/-- The rotation rate and the block sizes, where they are set. -/
def geometryParams (disk : Disk) : List Param :=
  (if 0 < disk.rotationRate && !disk.hasVirtioFamily then
      [.pair "rotation_rate" (decimal disk.rotationRate.toNat)]
    else
      [])
    ++ (if 0 < disk.blockSize then
        [.pair "logical_block_size" (decimal disk.blockSize.toNat),
          .pair "physical_block_size" (decimal disk.blockSize.toNat)]
      else
        [])

/-- The features of the disk that are off. -/
def featureParams (disk : Disk) : List Param :=
  (if !disk.scsi && disk.driver != ideCdDriver then [.pair "scsi" "off"] else [])
    ++ (if !disk.writeCache && disk.isVirtio then [.pair "config-wce" "off"] else [])

/-- The parameters of the device, with its boot index and its slot. -/
def deviceParams (disk : Disk) (placement : Placement) (bootIndex : Option String)
    (slot : Option Nat) : List Param :=
  [.bare (placement.deviceName virtioDriver disk.driver), .pair "drive" disk.id,
      .pair "serial" (orElse disk.serial disk.id)]
    ++ (bootIndex.map (Param.pair "bootindex")).toList
    ++ (if disk.isVirtio then placement.disableModernParams disk.disableModern else [])
    ++ (slot.map disk.slotParams).getD []
    ++ disk.controllerParams
    ++ disk.geometryParams
    ++ disk.featureParams
    ++ placement.romParams disk.romFile
    ++ placement.deviceNumberParams disk.deviceNumber
    ++ Param.onWhen "share-rw" disk.shared

/-- Whether rendering the disk takes a slot. -/
def takesSlot (disk : Disk) (placement : Placement) : Bool :=
  !disk.driveOnly && disk.isVirtio && placement.transport == .pci

/-- Renders the drive of a disk, and its device with a boot index and a slot as it needs them. -/
def render (disk : Disk) (placement : Placement) : Render (List LaunchOption) := do
  let drive : LaunchOption := .setting .drive disk.driveParams
  if disk.driveOnly then
    pure [drive]
  else
    let bootIndex ← Render.resolveBootIndex disk.bootIndex
    let slot ←
      if disk.takesSlot placement then some <$> Render.allocateSlot disk.address
      else pure none
    pure [drive, .setting .device (disk.deviceParams placement bootIndex slot)]

end Disk

end GuestLaunch
