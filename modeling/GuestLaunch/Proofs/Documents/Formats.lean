import GuestLaunch.Json.Layout
import GuestLaunch.Proofs.Documents.Parsing
import Mathlib.Data.List.Nodup

/-!
Formats that read back what they write. The law passes from the formats of the fields to the
layout of a record and from there to the format of the record, so that a record is lawful as
soon as its fields are.
-/

namespace GuestLaunch.Json

theorem itemsWellFormed_iff (items : List Json)
    : ItemsWellFormed items ↔ ∀ item ∈ items, item.WellFormed := by
  induction items with
  | nil => simp [ItemsWellFormed]
  | cons item rest ih => simp [ItemsWellFormed, ih]

theorem membersWellFormed_iff (members : List (Literal × Json))
    : MembersWellFormed members ↔ ∀ member ∈ members, member.2.WellFormed := by
  induction members with
  | nil => simp [MembersWellFormed]
  | cons member rest ih => simp [MembersWellFormed, ih]

theorem wellFormed_ofFields (fields : List (String × Json))
    : (ofFields fields).WellFormed ↔ ∀ field ∈ fields, field.2.WellFormed := by
  rw [ofFields, WellFormed, membersWellFormed_iff, List.forall_mem_map]

theorem wellFormed_ofInt (value : Int) : (ofInt value).WellFormed := by
  intro digit member
  cases member

namespace Format

/-- A format reads back every value that it writes, and writes only digits behind a point. -/
structure Lawful {α : Type} (format : Format α) : Prop where
  read_write : ∀ value, format.read? (format.write value) = some value
  wellFormed : ∀ value, (format.write value).WellFormed

/-- A format that leaves `null` to the values that are left out. -/
def NeverNull {α : Type} (format : Format α) : Prop := ∀ value, format.write value ≠ .null

variable {α : Type}

@[simp]
theorem lawful_string : string.Lawful where
  read_write _ := rfl
  wellFormed _ := trivial

@[simp]
theorem lawful_bool : bool.Lawful where
  read_write _ := rfl
  wellFormed _ := trivial

/-- Integers are read back where they stay in their range. -/
theorem lawful_integer {least greatest : Int} {ofInt : Int → α} {toInt : α → Int}
    (within : ∀ value, least ≤ toInt value ∧ toInt value ≤ greatest)
    (same : ∀ value, ofInt (toInt value) = value)
    : (integer least greatest ofInt toInt).Lawful where
  read_write value := by
    simp only [integer, Json.ofInt, Number.toInt?_ofInt, Option.bind_eq_bind, Option.bind_some,
      if_pos (within value), same]
  wellFormed value := wellFormed_ofInt (toInt value)

@[simp]
theorem lawful_uint8 : uint8.Lawful :=
  lawful_integer (fun value => by have := value.toNat_lt; simp [UInt8.size]; omega) (by simp)

@[simp]
theorem lawful_uint16 : uint16.Lawful :=
  lawful_integer (fun value => by have := value.toNat_lt; simp [UInt16.size]; omega) (by simp)

@[simp]
theorem lawful_uint32 : uint32.Lawful :=
  lawful_integer (fun value => by have := value.toNat_lt; simp [UInt32.size]; omega) (by simp)

@[simp]
theorem lawful_uint64 : uint64.Lawful :=
  lawful_integer (fun value => by have := value.toNat_lt; simp [UInt64.size]; omega) (by simp)

@[simp]
theorem lawful_int32 : int32.Lawful :=
  lawful_integer (fun value => ⟨value.minValue_le_toInt, value.toInt_le⟩) (by simp)

@[simp]
theorem Lawful.list {item : Format α} (lawful : item.Lawful) : (Format.list item).Lawful where
  read_write values := by
    show (values.map item.write).mapM item.read? = some values
    induction values with
    | nil => rfl
    | cons value rest ih => simp [lawful.read_write, ih]
  wellFormed values := by
    show ItemsWellFormed (values.map item.write)
    rw [itemsWellFormed_iff]
    intro json member
    obtain ⟨value, -, rfl⟩ := List.mem_map.mp member
    exact lawful.wellFormed value

/-- A value that may be left out is told from its absence, which alone is written as `null`. -/
@[simp]
theorem Lawful.optional {value : Format α} (lawful : value.Lawful) (present : value.NeverNull)
    : (Format.optional value).Lawful where
  read_write choice := by
    cases choice with
    | none => rfl
    | some inner =>
        show (Format.optional value).read? (value.write inner) = some (some inner)
        simp only [Format.optional]
        split
        · next absent => exact absurd absent (present inner)
        · rw [lawful.read_write, Option.map_some]
  wellFormed choice := by
    cases choice with
    | none => trivial
    | some inner => exact lawful.wellFormed inner

/-- Keywords are read back where they are told apart by their names. -/
theorem lawful_keyword {all : List α} {name : α → String} (complete : ∀ value, value ∈ all)
    (distinct : (all.map name).Nodup)
    : (keyword all name).Lawful where
  read_write value := by
    show (all.find? fun other => name other == name value) = some value
    have found : (all.find? fun other => name other == name value).isSome :=
      List.find?_isSome.mpr ⟨value, complete value, beq_self_eq_true (name value)⟩
    obtain ⟨other, result⟩ := Option.isSome_iff_exists.mp found
    have same : name other = name value := by simpa using List.find?_some result
    rw [result, List.inj_on_of_nodup_map distinct (complete other) (complete value) same]
  wellFormed _ := trivial

theorem lawful_optional_keyword {all : List α} {name : α → String}
    (complete : ∀ value, value ∈ all) (distinct : (all.map name).Nodup)
    : (optional (keyword all name)).Lawful :=
  (lawful_keyword complete distinct).optional nofun

@[simp]
theorem neverNull_string : string.NeverNull := nofun

end Format

-----------------------------------------------------------------------------------------
-- Records
-----------------------------------------------------------------------------------------

theorem valuesOf_cons_self (key : String) (value : Json) (members : List (Literal × Json))
    : valuesOf key ((some key, value) :: members) = value :: valuesOf key members := by
  simp [valuesOf]

theorem valuesOf_insert_self (key : String) (value : Json) (before after : List (Literal × Json))
    : valuesOf key (before ++ (some key, value) :: after)
      = valuesOf key before ++ value :: valuesOf key after := by
  simp [valuesOf]

theorem valuesOf_insert_of_ne {key other : String} (apart : other ≠ key) (value : Json)
    (before after : List (Literal × Json))
    : valuesOf key (before ++ (some other, value) :: after) = valuesOf key (before ++ after) := by
  simp [valuesOf, apart]

/-- A key is given no value exactly if no member has it. -/
theorem valuesOf_eq_nil_iff {key : String} {members : List (Literal × Json)}
    : valuesOf key members = [] ↔ some key ∉ members.map (·.1) := by
  simp only [valuesOf, List.map_eq_nil_iff, List.filter_eq_nil_iff, beq_iff_eq, List.mem_map,
    not_exists, not_and]

/-- Reads a field from the values that its key is given, of which there is one at most. -/
def Format.only? {α : Type} (format : Format α) (absent : α) : List Json → Option α
  | [] => some absent
  | [json] => format.read? json
  | _ => none

/-- A field whose key is given several values is not read. -/
theorem Format.only?_of_several {α : Type} {format : Format α} {absent : α}
    {values : List Json} (several : 1 < values.length)
    : format.only? absent values = none := by
  match values with
  | [] | [_] => simp at several
  | _ :: _ :: _ => rfl

namespace Layout

/-- A layout all of whose formats are lawful. -/
@[simp]
def Lawful {α : Type} : Layout α → Prop
  | done => True
  | field _ format _ rest => format.Lawful ∧ rest.Lawful

/-- The first field of a layout is read by itself, and then the later ones. -/
theorem readMembers?_field {α β : Type} (key : String) (format : Format α) (absent : α)
    (rest : Layout β) (members : List (Literal × Json))
    : (field key format absent rest).readMembers? members
      = (format.only? absent (valuesOf key members)).bind fun value =>
          (rest.readMembers? members).map fun later => (value, later) := by
  rw [readMembers?]
  cases valuesOf key members with
  | nil => cases rest.readMembers? members <;> rfl
  | cons json others =>
      cases others with
      | nil =>
          cases found : format.read? json <;> cases rest.readMembers? members <;>
            simp [Format.only?, found]
      | cons other others => rfl

/-- Only the members with a key of the layout are read, by induction on the layout. -/
theorem readMembers?_congr {α : Type} {layout : Layout α} {left right : List (Literal × Json)}
    (same : ∀ key ∈ layout.keys, valuesOf key left = valuesOf key right)
    : layout.readMembers? left = layout.readMembers? right := by
  induction layout with
  | done => rfl
  | field key format absent rest ih =>
      rw [readMembers?_field, readMembers?_field, same key (by simp [keys]),
        ih fun later member => same later (by simp [keys, member])]

/-- A member with a key of no field is skipped. -/
theorem readMembers?_insert {α : Type} {layout : Layout α} {key : String}
    (unknown : key ∉ layout.keys) (json : Json) (before after : List (Literal × Json))
    : layout.readMembers? (before ++ (some key, json) :: after)
      = layout.readMembers? (before ++ after) := by
  apply readMembers?_congr
  intro other member
  apply valuesOf_insert_of_ne
  rintro rfl
  exact unknown member

/-- The first field of a layout is read from the first member where no other one has its key, and
the member does not matter to the later fields.
-/
theorem readMembers?_cons {α β : Type} {key : String} {format : Format α} {absent : α}
    {rest : Layout β} (own : key ∉ rest.keys) {members : List (Literal × Json)}
    (alone : some key ∉ members.map (·.1)) (json : Json)
    : (field key format absent rest).readMembers? ((some key, json) :: members)
      = (format.read? json).bind fun value =>
          (rest.readMembers? members).map fun later => (value, later) := by
  have skipped := readMembers?_insert own json [] members
  rw [List.nil_append, List.nil_append] at skipped
  rw [readMembers?_field, valuesOf_cons_self, valuesOf_eq_nil_iff.mpr alone, skipped]
  rfl

/-- The written members have the keys of the layout. -/
theorem keys_members {α : Type} (layout : Layout α) (values : α)
    : ((layout.write values).map fun field => (some field.1, field.2)).map Prod.fst
      = layout.keys.map (some : String → Literal) := by
  rw [← layout.keys_write values, List.map_map, List.map_map]
  rfl

/-- What the first field of a layout writes is read back by itself. -/
theorem readMembers?_write_field {α β : Type} {key : String} {format : Format α} {absent : α}
    {rest : Layout β} (own : key ∉ rest.keys) (value : α) (later : β)
    : (field key format absent rest).readMembers?
          (((field key format absent rest).write (value, later)).map fun field =>
            (some field.1, field.2))
      = (format.read? (format.write value)).bind fun value =>
          (rest.readMembers?
            ((rest.write later).map fun field => (some field.1, field.2))).map
              fun later => (value, later) := by
  rw [write, List.map_cons]
  apply readMembers?_cons own
  rw [keys_members]
  simpa using own

/-- The members that write the fields are read back, by induction on the layout. -/
theorem readMembers?_write {α : Type} {layout : Layout α} (lawful : layout.Lawful)
    (distinct : layout.keys.Nodup) (values : α)
    : layout.readMembers? ((layout.write values).map fun field => (some field.1, field.2))
      = some values := by
  induction layout with
  | done => rfl
  | field key format absent rest ih =>
      obtain ⟨value, later⟩ := values
      obtain ⟨own, others⟩ := List.nodup_cons.mp distinct
      rw [readMembers?_write_field own, lawful.1.read_write, ih lawful.2 others later]
      rfl

theorem wellFormed_write {α : Type} {layout : Layout α} (lawful : layout.Lawful) (values : α)
    : ∀ field ∈ layout.write values, field.2.WellFormed := by
  induction layout with
  | done =>
      intro field member
      cases member
  | field key format absent rest ih =>
      obtain ⟨value, later⟩ := values
      intro field member
      rcases List.mem_cons.mp member with rfl | member
      · exact lawful.1.wellFormed value
      · exact ih lawful.2 later field member

end Layout

namespace Schema

/-- A record is read back where its fields are: its keys are distinct, and packing its fields
undoes taking them apart.
-/
@[simp]
theorem lawful_format {ρ : Type} {schema : Schema ρ} (lawful : schema.layout.Lawful)
    : schema.format.Lawful where
  read_write record := by
    have keyed : ((schema.layout.write (schema.unpack record)).map fun field =>
        (some field.1, field.2)).all (fun member => member.1.isSome) = true := by
      simp
    show schema.read? (ofFields (schema.layout.write (schema.unpack record))) = some record
    rw [ofFields, read?, if_pos keyed,
      Layout.readMembers?_write lawful schema.keys_nodup, Option.map_some, schema.pack_unpack]
  wellFormed record :=
    (wellFormed_ofFields _).mpr (Layout.wellFormed_write lawful (schema.unpack record))

@[simp]
theorem neverNull_format {ρ : Type} (schema : Schema ρ) : schema.format.NeverNull := nofun

end Schema

end GuestLaunch.Json
