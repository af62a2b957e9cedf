import GuestLaunch.Config
import GuestLaunch.Proofs.Documents.Formats

/-!
A configuration is read back from the text that it is written as. Every record of it has a
lawful format, from the tables and devices up to the configuration itself, and a lawful format
writes only values whose text is read back.
-/

namespace GuestLaunch
open Json Format

-----------------------------------------------------------------------------------------
-- Keywords
-----------------------------------------------------------------------------------------

@[simp] theorem NetType.lawful_format : NetType.format.Lawful :=
  lawful_keyword (by rintro ⟨⟩ <;> decide) (by decide)

@[simp] theorem CharBackend.lawful_format : CharBackend.format.Lawful :=
  lawful_keyword (by rintro ⟨⟩ <;> decide) (by decide)

@[simp] theorem CharBackend.lawful_optional_format : (optional CharBackend.format).Lawful :=
  lawful_optional_keyword (by rintro ⟨⟩ <;> decide) (by decide)

@[simp] theorem Transport.lawful_optional_format : (optional Transport.format).Lawful :=
  lawful_optional_keyword (by rintro ⟨⟩ <;> decide) (by decide)

@[simp] theorem Disk.lawful_optional_asyncIoFormat : (optional Disk.asyncIoFormat).Lawful :=
  lawful_optional_keyword (by rintro ⟨⟩ <;> decide) (by decide)

@[simp] theorem Disk.lawful_optional_cacheFormat : (optional Disk.cacheFormat).Lawful :=
  lawful_optional_keyword (by rintro ⟨⟩ <;> decide) (by decide)

@[simp] theorem Disk.lawful_optional_discardFormat : (optional Disk.discardFormat).Lawful :=
  lawful_optional_keyword (by rintro ⟨⟩ <;> decide) (by decide)

@[simp] theorem Disk.lawful_optional_detectionFormat : (optional Disk.detectionFormat).Lawful :=
  lawful_optional_keyword (by rintro ⟨⟩ <;> decide) (by decide)

@[simp] theorem ClockBase.lawful_format : (keyword [.utc, .localTime] ClockBase.name).Lawful :=
  lawful_keyword (by rintro ⟨⟩ <;> decide) (by decide)

@[simp] theorem BridgeType.lawful_format : (keyword [.pci, .pcie] BridgeType.name).Lawful :=
  lawful_keyword (by rintro ⟨⟩ <;> decide) (by decide)

-----------------------------------------------------------------------------------------
-- Settings
-----------------------------------------------------------------------------------------

@[simp] theorem Clock.lawful_layout : Clock.schema.layout.Lawful := by simp [schema]

@[simp] theorem ControlSocket.lawful_layout : ControlSocket.schema.layout.Lawful := by simp [schema]

@[simp] theorem FirmwareBlob.lawful_layout : FirmwareBlob.schema.layout.Lawful := by simp [schema]

@[simp] theorem IoThread.lawful_layout : IoThread.schema.layout.Lawful := by simp [schema]

@[simp] theorem KernelBoot.lawful_layout : KernelBoot.schema.layout.Lawful := by simp [schema]

@[simp] theorem Knobs.lawful_layout : Knobs.schema.layout.Lawful := by simp [schema]

@[simp] theorem Machine.lawful_layout : Machine.schema.layout.Lawful := by simp [schema]

@[simp] theorem Memory.lawful_layout : Memory.schema.layout.Lawful := by simp [schema]

@[simp] theorem Processors.lawful_layout : Processors.schema.layout.Lawful := by simp [schema]

namespace Smbios

@[simp] theorem Bios.lawful_layout : Bios.schema.layout.Lawful := by simp [schema]

@[simp] theorem SystemInfo.lawful_layout : SystemInfo.schema.layout.Lawful := by simp [schema]

@[simp] theorem Baseboard.lawful_layout : Baseboard.schema.layout.Lawful := by simp [schema]

@[simp] theorem Chassis.lawful_layout : Chassis.schema.layout.Lawful := by simp [schema]

@[simp] theorem Processor.lawful_layout : Processor.schema.layout.Lawful := by simp [schema]

@[simp] theorem MemoryDevice.lawful_layout : MemoryDevice.schema.layout.Lawful := by simp [schema]

end Smbios

@[simp] theorem Smbios.lawful_layout : Smbios.schema.layout.Lawful := by simp [schema]

-----------------------------------------------------------------------------------------
-- Devices
-----------------------------------------------------------------------------------------

@[simp] theorem Balloon.lawful_layout : Balloon.schema.layout.Lawful := by simp [schema]

@[simp] theorem Bridge.lawful_layout : Bridge.schema.layout.Lawful := by simp [schema]

@[simp] theorem CharDevice.lawful_layout : CharDevice.schema.layout.Lawful := by simp [schema]

@[simp] theorem Disk.lawful_layout : Disk.schema.layout.Lawful := by simp [schema]

@[simp] theorem Monitor.lawful_layout : Monitor.schema.layout.Lawful := by simp [schema]

@[simp] theorem LegacySerial.lawful_layout : LegacySerial.schema.layout.Lawful := by simp [schema]

@[simp] theorem EntropySource.lawful_layout : EntropySource.schema.layout.Lawful := by
  simp [schema]

@[simp] theorem FlashPair.lawful_layout : FlashPair.schema.layout.Lawful := by simp [schema]

@[simp] theorem TapSettings.lawful_layout : TapSettings.schema.layout.Lawful := by simp [schema]

@[simp] theorem PortAddress.lawful_layout : PortAddress.schema.layout.Lawful := by simp [schema]

@[simp] theorem PortRule.lawful_layout : PortRule.schema.layout.Lawful := by simp [schema]

@[simp] theorem UserNetwork.lawful_layout : UserNetwork.schema.layout.Lawful := by simp [schema]

@[simp] theorem MulticastSocket.lawful_layout : MulticastSocket.schema.layout.Lawful := by
  simp [schema]

@[simp] theorem NetDevice.lawful_layout : NetDevice.schema.layout.Lawful := by simp [schema]

@[simp] theorem PciController.lawful_layout : PciController.schema.layout.Lawful := by
  simp [schema]

@[simp] theorem RootPort.lawful_layout : RootPort.schema.layout.Lawful := by simp [schema]

@[simp] theorem ScsiController.lawful_layout : ScsiController.schema.layout.Lawful := by
  simp [schema]

@[simp] theorem Spice.lawful_layout : Spice.schema.layout.Lawful := by simp [schema]

@[simp] theorem Tpm.lawful_layout : Tpm.schema.layout.Lawful := by simp [schema]

@[simp] theorem VirtioSerial.lawful_layout : VirtioSerial.schema.layout.Lawful := by simp [schema]

-----------------------------------------------------------------------------------------
-- The source of a migration
-----------------------------------------------------------------------------------------

namespace Migration

/-- A source is written as one object of plain values, which fits where one more level of
nesting does.
-/
theorem isReadable_fields {outer : Nat} (fits : outer < depthLimit) (source : Migration)
    : isReadable outer (ofFields source.fields) = true := by
  have plain : (ofFields source.fields).isPlain = true := by
    cases source with
    | descriptor host =>
        have small : host.toInt.natAbs < UInt64.size := by
          have least := host.le_toInt
          have greatest := host.toInt_lt
          simp only [UInt64.size]
          omega
        have finite := Number.isFinite_ofInt host.toInt small
        simp [fields, ofFields, ofString, Json.ofInt, isPlain, membersArePlain, finite]
    | _ => rfl
  have flat : (ofFields source.fields).depth = 1 := by cases source <;> rfl
  rw [isReadable, plain, flat]
  exact decide_eq_true fits

/-- A source is read back by its type tag, and the field of the tag by its own key. -/
theorem lawful_format {outer : Nat} (fits : outer < depthLimit)
    : (Migration.format outer).Lawful where
  read_write source := by
    show read? outer (ofFields source.fields) = some source
    unfold read?
    rw [if_pos (isReadable_fields fits source)]
    show ofMembers? (source.fields.map fun field => (some field.1, field.2)) = some source
    cases source with
    | descriptor host =>
        have number : int32.read? (Json.ofInt host.toInt) = some host :=
          lawful_int32.read_write host
        simp [fields, ofString, ofMembers?, onlyValue?, valuesOf, ofTag?, number]
    | command line =>
        have text : string.read? (.text (some line)) = some line := rfl
        simp [fields, ofString, ofMembers?, onlyValue?, valuesOf, ofTag?, text]
    | absent | deferred => rfl
  wellFormed source := by
    show (ofFields source.fields).WellFormed
    rw [wellFormed_ofFields]
    cases source <;> simp [fields, wellFormed_ofInt, ofString, WellFormed]

end Migration

-----------------------------------------------------------------------------------------
-- The configuration
-----------------------------------------------------------------------------------------

theorem Config.lawful_layout : Config.schema.layout.Lawful := by
  have source : (Migration.format incomingLevel).Lawful := Migration.lawful_format (by decide)
  simp [schema, source]

/-- The text of a configuration is read as the configuration. -/
theorem Config.parse?_pretty (config : Config) : Config.parse? config.pretty = some config := by
  have lawful := Config.schema.lawful_format Config.lawful_layout
  rw [parse?, pretty, parse?_pretty_of_wellFormed (lawful.wellFormed config), Option.bind_some,
    lawful.read_write]

end GuestLaunch
