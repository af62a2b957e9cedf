import GuestLaunch.Proofs.Documents.Records

/-!
The two written forms of a record. The values of the leading fields are read the same from a list
and from an object that gives them the keys of the fields, and the other fields have their defaults.
This holds of every record of a configuration, wherever it stands in the document.
-/

namespace GuestLaunch.Json

namespace Layout
variable {α : Type}

/-- The members that give values the keys of the leading fields. -/
def label (layout : Layout α) (items : List Json) : List (Literal × Json) :=
  List.zip (layout.keys.map some) items

/-- A list of values fills in the leading fields, each of which is read with its own format, and the
fields behind them keep what they have.
-/
def Fills {α : Type} : Layout α → α → List Json → α → Prop
  | done, _, items, _ => items = []
  | field _ _ _ _, kept, [], values => values = kept
  | field _ format _ rest, (_, kept), item :: items, (value, later) =>
      format.read? item = some value ∧ rest.Fills kept items later

-----------------------------------------------------------------------------------------
-- Lists of values
-----------------------------------------------------------------------------------------

/-- What is read from a list of values is that they fill in the leading fields of a blank record, by
induction on the fields.
-/
theorem readItems?_eq_some_iff (layout : Layout α) {items : List Json} {values : α}
    : layout.readItems? items = some values ↔ layout.Fills layout.blank items values := by
  induction layout generalizing items with
  | done => cases items <;> simp [readItems?, Fills]
  | field key format absent rest ih =>
      cases items with
      | nil =>
          show some (absent, rest.blank) = some values ↔ values = (absent, rest.blank)
          rw [Option.some.injEq, eq_comm]
      | cons item items =>
          obtain ⟨value, later⟩ := values
          show (format.read? item).bind (fun own => (rest.readItems? items).bind fun others =>
              some (own, others)) = some (value, later)
            ↔ format.read? item = some value ∧ rest.Fills rest.blank items later
          simp [Option.bind_eq_some_iff, ih]

/-- More values than there are fields are not read, by induction on the fields. -/
theorem readItems?_of_excess {layout : Layout α} {items : List Json}
    (excess : layout.keys.length < items.length)
    : layout.readItems? items = none := by
  induction layout generalizing items with
  | done =>
      cases items with
      | nil => cases excess
      | cons item items => rfl
  | field key format absent rest ih =>
      cases items with
      | nil => cases excess
      | cons item items =>
          have behind := ih (Nat.lt_of_succ_lt_succ excess)
          simp [readItems?, behind]

-----------------------------------------------------------------------------------------
-- Objects with the same values
-----------------------------------------------------------------------------------------

theorem readMembers?_nil (layout : Layout α) : layout.readMembers? [] = some layout.blank := by
  induction layout with
  | done => rfl
  | field key format absent rest ih =>
      rw [readMembers?_field, ih]
      rfl

theorem keys_label_subset (layout : Layout α) (items : List Json)
    : (layout.label items).map (·.1) ⊆ layout.keys.map some := by
  intro key member
  obtain ⟨labelled, listed, rfl⟩ := List.mem_map.mp member
  exact (List.of_mem_zip listed).1

/-- Values with the keys of the leading fields are read as they are without, by induction on the
fields: no key is given twice.
-/
theorem readMembers?_label {layout : Layout α} (distinct : layout.keys.Nodup) {items : List Json}
    (fits : items.length ≤ layout.keys.length)
    : layout.readMembers? (layout.label items) = layout.readItems? items := by
  induction layout generalizing items with
  | done =>
      obtain rfl : items = [] := List.eq_nil_of_length_eq_zero (Nat.le_zero.mp fits)
      rfl
  | field key format absent rest ih =>
      cases items with
      | nil => exact readMembers?_nil _
      | cons item items =>
          obtain ⟨own, others⟩ := List.nodup_cons.mp distinct
          have alone : some key ∉ (rest.label items).map (·.1) := by
            intro member
            obtain ⟨other, listed, same⟩ := List.mem_map.mp (keys_label_subset rest items member)
            exact own (Option.some.inj same ▸ listed)
          show (field key format absent rest).readMembers?
            ((some key, item) :: rest.label items) = _
          rw [readMembers?_cons own alone, ih others (Nat.le_of_succ_le_succ fits), readItems?]
          cases format.read? item <;> cases rest.readItems? items <;> rfl

end Layout

namespace Schema
variable {ρ : Type} {schema : Schema ρ} {items : List Json}

theorem read?_label (fits : items.length ≤ schema.layout.keys.length)
    : schema.format.read? (.object (schema.layout.label items))
      = schema.format.read? (.list items) := by
  have keyed : (schema.layout.label items).all (fun member => member.1.isSome) = true := by
    apply List.all_eq_true.mpr
    intro member listed
    have known := schema.layout.keys_label_subset items (List.mem_map_of_mem listed)
    obtain ⟨key, -, same⟩ := List.mem_map.mp known
    rw [← same, Option.isSome_some]
  show schema.read? (.object (schema.layout.label items)) = schema.read? (.list items)
  rw [read?, read?, if_pos keyed, Layout.readMembers?_label schema.keys_nodup fits]

theorem read?_of_excess (excess : schema.layout.keys.length < items.length)
    : schema.format.read? (.list items) = none := by
  show schema.read? (.list items) = none
  rw [read?, Layout.readItems?_of_excess excess, Option.map_none]

/-- What is read from a list is the record whose leading fields are filled in and whose other fields
are those of the blank record.
-/
theorem read?_list_eq_some_iff {record : ρ}
    : schema.format.read? (.list items) = some record
      ↔ schema.layout.Fills (schema.unpack schema.blank) items (schema.unpack record) := by
  show schema.read? (.list items) = some record ↔ _
  rw [read?, Option.map_eq_some_iff, blank, schema.unpack_pack]
  simp only [schema.layout.readItems?_eq_some_iff]
  constructor
  · rintro ⟨fields, fills, rfl⟩
    rw [schema.unpack_pack]
    exact fills
  · intro fills
    exact ⟨schema.unpack record, fills, schema.pack_unpack record⟩

/-- The two written forms of a record agree, and with them the documents that have the record
anywhere in them. The record has `defaults` where it leaves out everything.
-/
structure FormsAgree (schema : Schema ρ) (defaults : ρ) : Prop where
  /-- A record is written with the keys of its fields, in their order. -/
  keys (record : ρ)
    : ∃ members, schema.format.write record = ofFields members
        ∧ members.map (·.1) = schema.layout.keys
  /-- A list of no more values than there are fields is read as the object that gives the values the
  keys of the leading fields.
  -/
  agree {items : List Json} (fits : items.length ≤ schema.layout.keys.length)
    : schema.format.read? (.list items) = schema.format.read? (.object (schema.layout.label items))
  /-- What is read has the values in its leading fields and the defaults in the others. -/
  filled (items : List Json) (record : ρ)
    : schema.format.read? (.list items) = some record
      ↔ schema.layout.Fills (schema.unpack defaults) items (schema.unpack record)
  /-- A list of more values than there are fields is not read. -/
  excess {items : List Json} (excess : schema.layout.keys.length < items.length)
    : schema.format.read? (.list items) = none
  /-- Texts of a configuration in which the record is written in the two forms are read the same. -/
  agreeInText {hole : Json → Json} (place : Place schema.format Config.schema.format hole)
    {items : List Json} (fits : items.length ≤ schema.layout.keys.length) {listed labelled : String}
    (asList : Json.parse? listed = some (hole (.list items)))
    (asObject : Json.parse? labelled = some (hole (.object (schema.layout.label items))))
    : Config.parse? listed = Config.parse? labelled
  /-- No text of a configuration is read that has too many values in a record. -/
  excessInText {hole : Json → Json} (place : Place schema.format Config.schema.format hole)
    {items : List Json} (excess : schema.layout.keys.length < items.length) {listed : String}
    (asList : Json.parse? listed = some (hole (.list items)))
    : Config.parse? listed = none

/-- The forms agree for every schema, with the blank record for its defaults. -/
theorem formsAgree_blank (schema : Schema ρ) : schema.FormsAgree schema.blank where
  keys record := ⟨_, rfl, schema.layout.keys_write _⟩
  agree fits := (read?_label fits).symm
  filled _ _ := read?_list_eq_some_iff
  excess := read?_of_excess
  agreeInText place _ fits _ _ asList asObject := by
    rw [Config.parse?, Config.parse?, asList, asObject]
    exact place.read?_congr (by simp) (by simp) (read?_label fits).symm
  excessInText place _ excess _ asList := by
    rw [Config.parse?, asList]
    exact place.read?_eq_none (by simp) (read?_of_excess excess)

end Schema

end GuestLaunch.Json

namespace GuestLaunch
open Json

-----------------------------------------------------------------------------------------
-- The records of a configuration
-----------------------------------------------------------------------------------------

/-- The records that a configuration is made of, each with its schema and the record that has all
defaults. The source of a migration is none of them, since it is told by a type tag.
-/
inductive SettingsRecord : {ρ : Type} → Schema ρ → ρ → Prop
  | config : SettingsRecord Config.schema {}
  | machine : SettingsRecord Machine.schema {}
  | smbios : SettingsRecord Smbios.schema {}
  | smbiosBios : SettingsRecord Smbios.Bios.schema {}
  | smbiosSystem : SettingsRecord Smbios.SystemInfo.schema {}
  | smbiosBaseboard : SettingsRecord Smbios.Baseboard.schema {}
  | smbiosChassis : SettingsRecord Smbios.Chassis.schema {}
  | smbiosProcessor : SettingsRecord Smbios.Processor.schema {}
  | smbiosMemory : SettingsRecord Smbios.MemoryDevice.schema {}
  | controlSocket : SettingsRecord ControlSocket.schema {}
  | rootPort : SettingsRecord RootPort.schema {}
  | bridge : SettingsRecord Bridge.schema {}
  | scsiController : SettingsRecord ScsiController.schema {}
  | pciController : SettingsRecord PciController.schema {}
  | disk : SettingsRecord Disk.schema {}
  | charDevice : SettingsRecord CharDevice.schema {}
  | legacySerial : SettingsRecord LegacySerial.schema {}
  | monitor : SettingsRecord Monitor.schema {}
  | netDevice : SettingsRecord NetDevice.schema {}
  | tapSettings : SettingsRecord TapSettings.schema {}
  | userNetwork : SettingsRecord UserNetwork.schema {}
  | portRule : SettingsRecord PortRule.schema {}
  | portAddress : SettingsRecord PortAddress.schema {}
  | multicastSocket : SettingsRecord MulticastSocket.schema {}
  | entropySource : SettingsRecord EntropySource.schema {}
  | balloon : SettingsRecord Balloon.schema {}
  | virtioSerial : SettingsRecord VirtioSerial.schema {}
  | flashPair : SettingsRecord FlashPair.schema {}
  | clock : SettingsRecord Clock.schema {}
  | spice : SettingsRecord Spice.schema {}
  | tpm : SettingsRecord Tpm.schema {}
  | kernelBoot : SettingsRecord KernelBoot.schema {}
  | memory : SettingsRecord Memory.schema {}
  | processors : SettingsRecord Processors.schema {}
  | knobs : SettingsRecord Knobs.schema {}
  | firmwareBlob : SettingsRecord FirmwareBlob.schema {}
  | ioThread : SettingsRecord IoThread.schema {}

namespace SettingsRecord
variable {ρ : Type} {schema : Schema ρ} {defaults : ρ}

/-- A record that leaves out everything has the defaults of its type, by the type. -/
theorem blank_eq (record : SettingsRecord schema defaults) : schema.blank = defaults := by
  cases record <;> rfl

/-- The list form and the object form of every record of a configuration agree. -/
theorem forms_agree (record : SettingsRecord schema defaults) : schema.FormsAgree defaults :=
  record.blank_eq ▸ schema.formsAgree_blank

/-- A card as a list of its type, its driver and its identifier is read as the object of the three,
in a configuration as well.
-/
theorem forms_agree_card
    : let values := [ofString "user", ofString "virtio-net", ofString "n0"]
      let members : List (Literal × Json) :=
        [(some "type", ofString "user"), (some "driver", ofString "virtio-net"),
          (some "id", ofString "n0")]
      let source := ofFields [("type", ofString "none")]
      SettingsRecord NetDevice.schema {}
        ∧ NetDevice.schema.format.read? (.list values)
          = NetDevice.schema.format.read? (.object members)
        ∧ NetDevice.schema.format.read? (.list values) = some { driver := "virtio-net", id := "n0" }
        ∧ Config.parse? (guestDocument (.list values) source).pretty
          = Config.parse? (guestDocument (.object members) source).pretty := by
  intro values members source
  have agreement := forms_agree .netDevice
  have fits : values.length ≤ NetDevice.schema.layout.keys.length := by decide
  have asList : Json.parse? (guestDocument (.list values) source).pretty
      = some (guestDocument (.list values) source) :=
    parse?_guestDocument (by simp [values, WellFormed, ItemsWellFormed, ofString])
      (by simp [source, wellFormed_ofFields, ofString, WellFormed])
  have asObject : Json.parse? (guestDocument (.object members) source).pretty
      = some (guestDocument (.object members) source) :=
    parse?_guestDocument (by simp [members, WellFormed, MembersWellFormed, ofString])
      (by simp [source, wellFormed_ofFields, ofString, WellFormed])
  refine ⟨.netDevice, agreement.agree fits, ?_,
    agreement.agreeInText (place_card source) fits asList asObject⟩
  exact (agreement.filled values _).mpr ⟨rfl, rfl, rfl, rfl⟩

end SettingsRecord

end GuestLaunch
