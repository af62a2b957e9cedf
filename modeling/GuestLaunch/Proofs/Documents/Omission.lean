import GuestLaunch.Proofs.Documents.RoundTrip

/-!
Documents that leave out what has its default. Whatever members are left out, at any depth, the
document is still read as the value that it was written for, because each record fills in the
defaults of its own fields.
-/

namespace GuestLaunch.Json

mutual

/-- A document abridges a value: it is what the format writes, without some of the members of its
records that have the default of their field. A format that is no record is written as it is.
-/
inductive Abridges : {α : Type} → Format α → α → Json → Prop
  | whole {α : Type} {format : Format α} {value : α}
    : Abridges format value (format.write value)
  | empty {α : Type} {item : Format α} : Abridges (.list item) [] (.list [])
  | items {α : Type} {item : Format α} {value : α} {later : List α} {json : Json}
    {others : List Json} (first : Abridges item value json)
    (rest : Abridges (.list item) later (.list others))
    : Abridges (.list item) (value :: later) (.list (json :: others))
  | present {α : Type} {format : Format α} {value : α} {json : Json}
    (inner : Abridges format value json)
    : Abridges (.optional format) (some value) json
  | record {ρ : Type} {schema : Schema ρ} {value : ρ} {members : List (Literal × Json)}
    (fields : FieldsAbridge schema.layout (schema.unpack value) members)
    : Abridges schema.format value (.object members)

/-- Members abridge the fields of a record: each field is kept under its key or left out, and it
is left out only if it has its default.
-/
inductive FieldsAbridge : {α : Type} → Layout α → α → List (Literal × Json) → Prop
  | done : FieldsAbridge .done () []
  | kept {α β : Type} {key : String} {format : Format α} {absent value : α} {rest : Layout β}
    {later : β} {json : Json} {members : List (Literal × Json)}
    (own : Abridges format value json) (others : FieldsAbridge rest later members)
    : FieldsAbridge (.field key format absent rest) (value, later)
        ((some key, json) :: members)
  | omitted {α β : Type} {key : String} {format : Format α} {absent value : α}
    {rest : Layout β} {later : β} {members : List (Literal × Json)}
    (default : value = absent) (others : FieldsAbridge rest later members)
    : FieldsAbridge (.field key format absent rest) (value, later) members

end

-----------------------------------------------------------------------------------------
-- Values that are read back
-----------------------------------------------------------------------------------------

section ReadBack
variable {α β ρ : Type}

/-- A list that is read back has items that are. -/
theorem Format.read?_items {item : Format α} {value : α} {later : List α}
    (read : (Format.list item).read? ((Format.list item).write (value :: later))
      = some (value :: later))
    : item.read? (item.write value) = some value
      ∧ (Format.list item).read? ((Format.list item).write later) = some later := by
  have items : ((value :: later).map item.write).mapM item.read? = some (value :: later) := read
  show _ ∧ (later.map item.write).mapM item.read? = some later
  cases first : item.read? (item.write value) with
  | none => simp [first] at items
  | some own =>
      cases rest : (later.map item.write).mapM item.read? with
      | none => simp [first, rest] at items
      | some others => simpa [first, rest] using items

/-- A value that is read back where it may be left out is told from its absence. -/
theorem Format.read?_present {format : Format α} {value : α}
    (read : (optional format).read? ((optional format).write (some value))
      = some (some value))
    : format.write value ≠ .null ∧ format.read? (format.write value) = some value := by
  have inner : (optional format).read? (format.write value) = some (some value) := read
  cases written : format.write value with
  | null =>
      rw [written] at inner
      cases inner
  | bool | number | text | list | object =>
      rw [written] at inner
      refine ⟨nofun, ?_⟩
      obtain ⟨own, found, same⟩ := Option.map_eq_some_iff.mp inner
      rw [found, Option.some.inj same]

/-- A record that is read back has fields that are. -/
theorem Schema.readMembers?_of_read? {schema : Schema ρ} {value : ρ}
    (read : schema.format.read? (schema.format.write value) = some value)
    : schema.layout.readMembers?
          ((schema.layout.write (schema.unpack value)).map fun field =>
            (some field.1, field.2))
      = some (schema.unpack value) := by
  have keyed : ((schema.layout.write (schema.unpack value)).map fun field =>
      (some field.1, field.2)).all (fun member => member.1.isSome) = true := by
    simp
  have inner : schema.read? (ofFields (schema.layout.write (schema.unpack value)))
      = some value := read
  rw [ofFields, Schema.read?, if_pos keyed] at inner
  obtain ⟨fields, found, rfl⟩ := Option.map_eq_some_iff.mp inner
  rw [schema.unpack_pack] at found ⊢
  exact found

/-- The first field of a layout that is read back is read back, and so are the later ones. -/
theorem Layout.read?_fields {key : String} {format : Format α} {absent value : α}
    {rest : Layout β} {later : β} (own : key ∉ rest.keys)
    (read : (field key format absent rest).readMembers?
        (((field key format absent rest).write (value, later)).map fun field =>
          (some field.1, field.2))
      = some (value, later))
    : format.read? (format.write value) = some value
      ∧ rest.readMembers? ((rest.write later).map fun field => (some field.1, field.2))
        = some later := by
  rw [readMembers?_write_field own] at read
  obtain ⟨_, first, others⟩ := Option.bind_eq_some_iff.mp read
  obtain ⟨_, found, same⟩ := Option.map_eq_some_iff.mp others
  obtain ⟨rfl, rfl⟩ := Prod.mk.inj same
  exact ⟨first, found⟩

end ReadBack

-----------------------------------------------------------------------------------------
-- Abridged documents
-----------------------------------------------------------------------------------------

/-- What is not written as `null` is not abridged to it, by the form of the document. -/
theorem Abridges.ne_null {α : Type} {format : Format α} {value : α} {json : Json}
    (h : Abridges format value json) (written : format.write value ≠ .null)
    : json ≠ .null := by
  match h with
  | .whole => exact written
  | .present inner => exact inner.ne_null written
  | .empty | .items _ _ | .record _ => nofun

/-- Members that abridge a record have keys of it. -/
theorem FieldsAbridge.keys_subset {α : Type} {layout : Layout α} {values : α}
    {members : List (Literal × Json)} (h : FieldsAbridge layout values members)
    : members.map (·.1) ⊆ layout.keys.map some := by
  match h with
  | .done => exact List.Subset.refl _
  | .kept _ others => exact List.cons_subset_cons _ others.keys_subset
  | .omitted _ others => exact List.Subset.trans others.keys_subset (List.subset_cons_self _ _)

theorem FieldsAbridge.not_mem_keys {α : Type} {layout : Layout α} {values : α}
    {members : List (Literal × Json)} (h : FieldsAbridge layout values members) {key : String}
    (other : key ∉ layout.keys)
    : some key ∉ members.map (·.1) := by
  intro member
  obtain ⟨own, listed, same⟩ := List.mem_map.mp (h.keys_subset member)
  exact other (Option.some.inj same ▸ listed)

mutual

/-- What is read back from the document that is written is read from every one that abridges it, by
induction on what is left out.
-/
theorem Abridges.read? {α : Type} {format : Format α} {value : α} {json : Json}
    (h : Abridges format value json)
    (read : format.read? (format.write value) = some value)
    : format.read? json = some value := by
  match h with
  | .whole => exact read
  | .empty => rfl
  | .items first rest =>
      obtain ⟨own, others⟩ := Format.read?_items read
      have firstRead := first.read? own
      have restRead := rest.read? others
      simp only [Format.list, List.mapM_cons] at restRead ⊢
      rw [firstRead, restRead]
      rfl
  | @Abridges.present _ _ _ json own =>
      obtain ⟨written, ownRead⟩ := Format.read?_present read
      have present := own.ne_null written
      have ownRead := own.read? ownRead
      cases json with
      | null => exact absurd rfl present
      | bool | number | text | list | object =>
          simp only [Format.optional, ownRead, Option.map_some]
  | @Abridges.record _ schema _ members fields =>
      have fieldsRead := fields.readMembers? schema.keys_nodup
        (Schema.readMembers?_of_read? read)
      have keyed : members.all (fun member => member.1.isSome) = true := by
        apply List.all_eq_true.mpr
        intro member listed
        obtain ⟨_, _, same⟩ := List.mem_map.mp (fields.keys_subset (List.mem_map_of_mem listed))
        rw [← same]
        rfl
      show schema.read? (.object members) = _
      rw [Schema.read?, if_pos keyed, fieldsRead, Option.map_some, schema.pack_unpack]

theorem FieldsAbridge.readMembers? {α : Type} {layout : Layout α} {values : α}
    {members : List (Literal × Json)} (h : FieldsAbridge layout values members)
    (distinct : layout.keys.Nodup)
    (read : layout.readMembers?
        ((layout.write values).map fun field => (some field.1, field.2))
      = some values)
    : layout.readMembers? members = some values := by
  match h with
  | .done => rfl
  | .kept first others =>
      obtain ⟨own, apart⟩ := List.nodup_cons.mp distinct
      obtain ⟨firstRead, othersRead⟩ := Layout.read?_fields own read
      rw [Layout.readMembers?_cons own (others.not_mem_keys own), first.read? firstRead,
        others.readMembers? apart othersRead]
      rfl
  | .omitted default others =>
      obtain ⟨own, apart⟩ := List.nodup_cons.mp distinct
      obtain ⟨_, othersRead⟩ := Layout.read?_fields own read
      rw [Layout.readMembers?_field, valuesOf_eq_nil_iff.mpr (others.not_mem_keys own),
        others.readMembers? apart othersRead, default]
      rfl

end

mutual

/-- An abridged document is well formed where the whole one is, by induction on what is left
out.
-/
theorem Abridges.wellFormed {α : Type} {format : Format α} {value : α} {json : Json}
    (h : Abridges format value json) (written : (format.write value).WellFormed)
    : json.WellFormed := by
  match h with
  | .whole => exact written
  | .empty => trivial
  | .items first rest => exact ⟨first.wellFormed written.1, rest.wellFormed written.2⟩
  | .present inner => exact inner.wellFormed written
  | .record fields => exact fields.wellFormed ((wellFormed_ofFields _).mp written)

theorem FieldsAbridge.wellFormed {α : Type} {layout : Layout α} {values : α}
    {members : List (Literal × Json)} (h : FieldsAbridge layout values members)
    (written : ∀ field ∈ layout.write values, field.2.WellFormed)
    : MembersWellFormed members := by
  match h with
  | .done => trivial
  | .kept first others =>
      obtain ⟨own, later⟩ := List.forall_mem_cons.mp written
      exact ⟨first.wellFormed own, others.wellFormed later⟩
  | .omitted _ others => exact others.wellFormed (List.forall_mem_cons.mp written).2

end

end GuestLaunch.Json

namespace GuestLaunch
open Json

/-- A document that abridges a configuration is read as the configuration, from whatever text it
has, and it has one.
-/
theorem Config.parse?_abridged {config : Config} {document : Json}
    (abridged : Abridges Config.schema.format config document)
    : (∀ text, Json.parse? text = some document → Config.parse? text = some config)
      ∧ Config.parse? document.pretty = some config := by
  have lawful := Config.schema.lawful_format Config.lawful_layout
  have read := abridged.read? (lawful.read_write config)
  have wellFormed := abridged.wellFormed (lawful.wellFormed config)
  constructor
  · intro text parsed
    rw [parse?, parsed, Option.bind_some, read]
  · rw [parse?, parse?_pretty_of_wellFormed wellFormed, Option.bind_some, read]

/-- A guest with a control socket, a card and a display that differ in little from the defaults. -/
def sparseGuest : Config where
  name := "vm"
  controlSockets := [{ name := "/run/qmp.sock" }]
  netDevices := [{ id := "n0", user := { ipv4 := true } }]
  spice := some {}

/-- The document of the sparse guest without any of the defaults. -/
def sparseDocument : Json :=
  ofFields
    [("name", ofString "vm"),
      ("qmp-sockets", .list [ofFields [("name", ofString "/run/qmp.sock")]]),
      ("net-devices",
        .list
          [ofFields
            [("id", ofString "n0"), ("user-device", ofFields [("ipv4-enable", .bool true)])]]),
      ("spice", ofFields [])]

theorem sparseDocument_abridges
    : Abridges Config.schema.format sparseGuest sparseDocument := by
  have socket : Abridges ControlSocket.schema.format { name := "/run/qmp.sock" }
      (ofFields [("name", ofString "/run/qmp.sock")]) :=
    .record (.omitted rfl (.kept .whole (.omitted rfl (.omitted rfl .done))))
  have network : Abridges UserNetwork.schema.format { ipv4 := true }
      (ofFields [("ipv4-enable", .bool true)]) :=
    .record (.kept .whole (.omitted rfl (.omitted rfl .done)))
  have card : Abridges NetDevice.schema.format { id := "n0", user := { ipv4 := true } }
      (ofFields
        [("id", ofString "n0"), ("user-device", ofFields [("ipv4-enable", .bool true)])]) := by
    refine .record ?_
    repeat refine .omitted rfl ?_
    refine .kept .whole ?_
    repeat refine .omitted rfl ?_
    refine .kept network ?_
    repeat refine .omitted rfl ?_
    exact .done
  have display : Abridges Spice.schema.format {} (ofFields []) := by
    refine .record ?_
    repeat refine .omitted rfl ?_
    exact .done
  refine .record (.kept .whole ?_)
  repeat refine .omitted rfl ?_
  refine .kept (.items socket .empty) ?_
  repeat refine .omitted rfl ?_
  refine .kept (.items card .empty) ?_
  repeat refine .omitted rfl ?_
  refine .kept (.present display) ?_
  repeat refine .omitted rfl ?_
  exact .done

/-- The document of the sparse guest is read as the sparse guest. -/
theorem parse?_abridged_sparseGuest
    : Abridges Config.schema.format sparseGuest sparseDocument
      ∧ Config.parse? sparseDocument.pretty = some sparseGuest :=
  ⟨sparseDocument_abridges, (Config.parse?_abridged sparseDocument_abridges).2⟩

/-- A control socket without members is one of the supported family. -/
example
    : Config.parse? "\x7b\"qmp-sockets\": [\x7b\x7d]\x7d"
      = some { controlSockets := [{ type := "unix" }] } := by
  decide +kernel

end GuestLaunch
