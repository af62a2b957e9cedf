import GuestLaunch.Json.Layout
import GuestLaunch.LaunchOption
import GuestLaunch.Problem

/-!
SMBIOS tables, which tell the guest about its hardware. Each table renders as one option with
the fields that are set, and as none where no field is.
-/

namespace GuestLaunch
open Json

namespace Smbios

/-- The option of a table with a type number, from its properties in their order. -/
def tableOptions (type : Nat) (fields : List (String × String)) : List LaunchOption :=
  match fields.flatMap fun field => Param.unlessEmpty field.1 field.2 with
  | [] => []
  | params => [.setting .smbios (.pair "type" (Text.decimal type) :: params)]

/-- Table 0: the BIOS. -/
structure Bios where
  vendor : String := ""
  version : String := ""
  date : String := ""
  /-- The release, as a major and a minor number with a point between them. -/
  release : String := ""
  /-- Whether the BIOS supports UEFI: `on` or `off` in any case of letters. -/
  uefi : String := ""
deriving DecidableEq, Repr, Inhabited

namespace Bios

def schema : Schema Bios where
  layout :=
    .field "vendor" .string "" <|
    .field "version" .string "" <|
    .field "date" .string "" <|
    .field "release" .string "" <|
    .field "uefi" .string "" .done
  pack := fun (vendor, version, date, release, uefi, ()) =>
    { vendor, version, date, release, uefi }
  unpack table := (table.vendor, table.version, table.date, table.release, table.uefi, ())

def label : String := "SMBIOS type 0"

/-- Whether a text starts with two integers and a point between them. -/
def isRelease (text : List Char) : Bool :=
  match Text.Numeral.leadingInteger? text with
  | some (_, '.' :: rest) => (Text.Numeral.leadingInteger? rest).isSome
  | _ => false

/-- Checks the release, where it is set. -/
def checkRelease (table : Bios) : Option Problem :=
  if table.release.isEmpty || isRelease table.release.toList then none
  else some (.invalidValue label "release" table.release "<major>.<minor>")

/-- Checks the mark of UEFI support, where it is set. -/
def checkUefi (table : Bios) : Option Problem :=
  let lower := String.ofList (table.uefi.toList.map Char.toLower)
  if table.uefi.isEmpty || lower == "on" || lower == "off" then none
  else some (.invalidValue label "uefi" table.uefi "'on' or 'off'")

def problem? (table : Bios) : Option Problem := table.checkRelease <|> table.checkUefi

def launchOptions (table : Bios) : List LaunchOption :=
  tableOptions 0
    [("vendor", table.vendor), ("version", table.version), ("date", table.date),
      ("release", table.release), ("uefi", table.uefi)]

end Bios

/-- Table 1: the system. -/
structure SystemInfo where
  manufacturer : String := ""
  product : String := ""
  version : String := ""
  serial : String := ""
  uuid : String := ""
  sku : String := ""
  family : String := ""
deriving DecidableEq, Repr, Inhabited

namespace SystemInfo

def schema : Schema SystemInfo where
  layout :=
    .field "manufacturer" .string "" <|
    .field "product" .string "" <|
    .field "version" .string "" <|
    .field "serial" .string "" <|
    .field "uuid" .string "" <|
    .field "sku" .string "" <|
    .field "family" .string "" .done
  pack := fun (manufacturer, product, version, serial, uuid, sku, family, ()) =>
    { manufacturer, product, version, serial, uuid, sku, family }
  unpack table :=
    (table.manufacturer, table.product, table.version, table.serial, table.uuid, table.sku,
      table.family, ())

def launchOptions (table : SystemInfo) : List LaunchOption :=
  tableOptions 1
    [("manufacturer", table.manufacturer), ("product", table.product),
      ("version", table.version), ("serial", table.serial), ("uuid", table.uuid),
      ("sku", table.sku), ("family", table.family)]

end SystemInfo

/-- Table 2: the base board. -/
structure Baseboard where
  manufacturer : String := ""
  product : String := ""
  version : String := ""
  serial : String := ""
  asset : String := ""
  location : String := ""
deriving DecidableEq, Repr, Inhabited

namespace Baseboard

def schema : Schema Baseboard where
  layout :=
    .field "manufacturer" .string "" <|
    .field "product" .string "" <|
    .field "version" .string "" <|
    .field "serial" .string "" <|
    .field "asset" .string "" <|
    .field "location" .string "" .done
  pack := fun (manufacturer, product, version, serial, asset, location, ()) =>
    { manufacturer, product, version, serial, asset, location }
  unpack table :=
    (table.manufacturer, table.product, table.version, table.serial, table.asset,
      table.location, ())

def launchOptions (table : Baseboard) : List LaunchOption :=
  tableOptions 2
    [("manufacturer", table.manufacturer), ("product", table.product),
      ("version", table.version), ("serial", table.serial), ("asset", table.asset),
      ("location", table.location)]

end Baseboard

/-- Table 3: the chassis. -/
structure Chassis where
  manufacturer : String := ""
  version : String := ""
  serial : String := ""
  asset : String := ""
  sku : String := ""
deriving DecidableEq, Repr, Inhabited

namespace Chassis

def schema : Schema Chassis where
  layout :=
    .field "manufacturer" .string "" <|
    .field "version" .string "" <|
    .field "serial" .string "" <|
    .field "asset" .string "" <|
    .field "sku" .string "" .done
  pack := fun (manufacturer, version, serial, asset, sku, ()) =>
    { manufacturer, version, serial, asset, sku }
  unpack table :=
    (table.manufacturer, table.version, table.serial, table.asset, table.sku, ())

def launchOptions (table : Chassis) : List LaunchOption :=
  tableOptions 3
    [("manufacturer", table.manufacturer), ("version", table.version),
      ("serial", table.serial), ("asset", table.asset), ("sku", table.sku)]

end Chassis

/-- Table 4: a processor in its socket. -/
structure Processor where
  /-- How the designations of sockets start. -/
  socketPrefix : String := ""
  manufacturer : String := ""
  version : String := ""
  serial : String := ""
  asset : String := ""
  part : String := ""
deriving DecidableEq, Repr, Inhabited

namespace Processor

def schema : Schema Processor where
  layout :=
    .field "socket-prefix" .string "" <|
    .field "manufacturer" .string "" <|
    .field "version" .string "" <|
    .field "serial" .string "" <|
    .field "asset" .string "" <|
    .field "part" .string "" .done
  pack := fun (socketPrefix, manufacturer, version, serial, asset, part, ()) =>
    { socketPrefix, manufacturer, version, serial, asset, part }
  unpack table :=
    (table.socketPrefix, table.manufacturer, table.version, table.serial, table.asset,
      table.part, ())

def launchOptions (table : Processor) : List LaunchOption :=
  tableOptions 4
    [("sock_pfx", table.socketPrefix), ("manufacturer", table.manufacturer),
      ("version", table.version), ("serial", table.serial), ("asset", table.asset),
      ("part", table.part)]

end Processor

/-- Table 17: a memory device. -/
structure MemoryDevice where
  /-- How the locators of memory devices start. -/
  locationPrefix : String := ""
  bank : String := ""
  manufacturer : String := ""
  serial : String := ""
  asset : String := ""
  part : String := ""
  /-- The speed, which starts with a number. -/
  speed : String := ""
deriving DecidableEq, Repr, Inhabited

namespace MemoryDevice

def schema : Schema MemoryDevice where
  layout :=
    .field "location-prefix" .string "" <|
    .field "bank" .string "" <|
    .field "manufacturer" .string "" <|
    .field "serial" .string "" <|
    .field "asset" .string "" <|
    .field "part" .string "" <|
    .field "speed" .string "" .done
  pack := fun (locationPrefix, bank, manufacturer, serial, asset, part, speed, ()) =>
    { locationPrefix, bank, manufacturer, serial, asset, part, speed }
  unpack table :=
    (table.locationPrefix, table.bank, table.manufacturer, table.serial, table.asset,
      table.part, table.speed, ())

def label : String := "SMBIOS type 17"

/-- The problem of a speed that is set and does not start with a number. -/
def problem? (table : MemoryDevice) : Option Problem :=
  if table.speed.isEmpty
      || (Text.Numeral.leadingInteger? table.speed.toList).isSome then
    none
  else
    some (.invalidValue label "speed" table.speed "a number")

def launchOptions (table : MemoryDevice) : List LaunchOption :=
  tableOptions 17
    [("loc_pfx", table.locationPrefix), ("bank", table.bank),
      ("manufacturer", table.manufacturer), ("serial", table.serial),
      ("asset", table.asset), ("part", table.part), ("speed", table.speed)]

end MemoryDevice

end Smbios

/-- All SMBIOS settings. -/
structure Smbios where
  /-- A file with tables in binary form. -/
  file : String := ""
  bios : Smbios.Bios := {}
  system : Smbios.SystemInfo := {}
  baseboard : Smbios.Baseboard := {}
  chassis : Smbios.Chassis := {}
  processors : List Smbios.Processor := []
  memory : List Smbios.MemoryDevice := []
deriving DecidableEq, Repr, Inhabited

namespace Smbios

def schema : Schema Smbios where
  layout :=
    .field "file" .string "" <|
    .field "bios" Bios.schema.format {} <|
    .field "system" SystemInfo.schema.format {} <|
    .field "baseboard" Baseboard.schema.format {} <|
    .field "chassis" Chassis.schema.format {} <|
    .field "processors" (.list Processor.schema.format) [] <|
    .field "memory" (.list MemoryDevice.schema.format) [] .done
  pack := fun (file, bios, system, baseboard, chassis, processors, memory, ()) =>
    { file, bios, system, baseboard, chassis, processors, memory }
  unpack smbios :=
    (smbios.file, smbios.bios, smbios.system, smbios.baseboard, smbios.chassis,
      smbios.processors, smbios.memory, ())

/-- The problems of the tables that are checked: the BIOS, then each memory device. -/
def problems (smbios : Smbios) : List Problem :=
  problemsOf (smbios.bios.problem? :: smbios.memory.map MemoryDevice.problem?)

/-- The option of a file with binary tables. -/
def fileOptions (smbios : Smbios) : List LaunchOption :=
  if smbios.file.isEmpty then [] else [.setting .smbios [.pair "file" smbios.file]]

/-- The options of the tables by number, after that of the file. -/
def launchOptions (smbios : Smbios) : List LaunchOption :=
  smbios.fileOptions
    ++ smbios.bios.launchOptions
    ++ smbios.system.launchOptions
    ++ smbios.baseboard.launchOptions
    ++ smbios.chassis.launchOptions
    ++ smbios.processors.flatMap Processor.launchOptions
    ++ smbios.memory.flatMap MemoryDevice.launchOptions

end Smbios

end GuestLaunch
