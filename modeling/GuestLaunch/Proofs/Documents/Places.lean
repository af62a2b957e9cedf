import GuestLaunch.Proofs.Documents.Formats

/-!
Places in a document. A document with a hole at a place is read by reading what fills the hole and
then going on without another look at it, so what is read the same at a place is read the same in
the whole document.
-/

namespace GuestLaunch.Json

/-- A layout has a field at a position, with a key and a format. -/
inductive Layout.FieldAt {β : Type} (key : String) (format : Format β)
    : Nat → {α : Type} → Layout α → Prop
  | first {α : Type} {absent : β} {rest : Layout α}
    : FieldAt key format 0 (.field key format absent rest)
  | later {position : Nat} {α γ : Type} {other : String} {own : Format γ} {absent : γ}
    {rest : Layout α} (behind : FieldAt key format position rest)
    : FieldAt key format (position + 1) (.field other own absent rest)

/-- A place for a document of one format in a document of another, given as the document around a
hole. It is reached through items of lists, values that may be left out, and fields of records,
whether a record is written as an object or as a list.
-/
inductive Place {β : Type} (inner : Format β) : {α : Type} → Format α → (Json → Json) → Prop
  | here : Place inner inner id
  | item {α : Type} {format : Format α} {hole : Json → Json} (place : Place inner format hole)
    (before after : List Json)
    : Place inner (.list format) fun json => .list (before ++ hole json :: after)
  | optional {α : Type} {format : Format α} {hole : Json → Json}
    (place : Place inner format hole)
    : Place inner (.optional format) hole
  | member {ρ γ : Type} {schema : Schema ρ} {format : Format γ} {key : String} {position : Nat}
    {hole : Json → Json} (field : schema.layout.FieldAt key format position)
    (place : Place inner format hole) (before after : List (Literal × Json))
    : Place inner schema.format fun json => .object (before ++ (some key, hole json) :: after)
  | slot {ρ γ : Type} {schema : Schema ρ} {format : Format γ} {key : String} {hole : Json → Json}
    {before : List Json} (field : schema.layout.FieldAt key format before.length)
    (place : Place inner format hole) (after : List Json)
    : Place inner schema.format fun json => .list (before ++ hole json :: after)

-----------------------------------------------------------------------------------------
-- Reading through the parts of a document
-----------------------------------------------------------------------------------------

/-- Reading with a hole is reading what fills the hole and then finishing without a look at it. The
hole is not filled with `null`, which is read as a value that is left out.
-/
def Through {α β : Type} (inner? : Json → Option β) (outer? : Json → Option α) : Prop :=
  ∃ finish : β → Option α, ∀ json, json ≠ .null → outer? json = (inner? json).bind finish

namespace Through
variable {α β γ δ : Type} {inner? : Json → Option β} {outer? : Json → Option α}

theorem refl (inner? : Json → Option β) : Through inner? inner? :=
  ⟨some, fun json _ => (Option.bind_fun_some (inner? json)).symm⟩

/-- Whatever is done with the result is done behind the hole. -/
theorem bind (through : Through inner? outer?) (next : α → Option γ)
    : Through inner? fun json => (outer? json).bind next := by
  obtain ⟨finish, same⟩ := through
  refine ⟨fun value => (finish value).bind next, fun json filled => ?_⟩
  simp only [same json filled, Option.bind_assoc]

theorem map (through : Through inner? outer?) (f : α → γ)
    : Through inner? fun json => (outer? json).map f := by
  simpa only [Option.map_eq_bind] using through.bind (some ∘ f)

/-- Whatever is read before the hole may as well be read behind it. -/
theorem bind_before (through : Through inner? outer?) (first : Option γ)
    (next : γ → α → Option δ)
    : Through inner? fun json => first.bind fun value => (outer? json).bind (next value) := by
  cases first with
  | none => exact ⟨fun _ => none, fun json _ => (Option.bind_fun_none (inner? json)).symm⟩
  | some value => exact through.bind (next value)

/-- A hole in what fills a hole is read through as well. -/
theorem trans {middle? : Json → Option γ} {hole : Json → Json}
    (first : Through inner? fun json => middle? (hole json))
    (filled : ∀ json, json ≠ .null → hole json ≠ .null) (second : Through middle? outer?)
    : Through inner? fun json => outer? (hole json) := by
  obtain ⟨finish, same⟩ := second
  obtain ⟨later, rest⟩ := first.bind finish
  refine ⟨later, fun json present => ?_⟩
  rw [← rest json present]
  exact same (hole json) (filled json present)

end Through

/-- The items of a list are read through any of them, by induction on those before it. -/
theorem mapM_through {α : Type} (read? : Json → Option α) (before after : List Json)
    : Through read? fun json => (before ++ json :: after).mapM read? := by
  induction before with
  | nil =>
      have read := (Through.refl read?).bind fun value =>
        (after.mapM read?).bind fun values => some (value :: values)
      simpa [List.mapM_cons] using read
  | cons head rest ih =>
      have read := ih.bind_before (read? head) fun first values => some (first :: values)
      simpa [List.mapM_cons] using read

/-- A value that may be left out is read through. -/
theorem optional_through {α : Type} (format : Format α)
    : Through format.read? (Format.optional format).read? := by
  refine ⟨fun value => some (some value), fun json present => ?_⟩
  cases json with
  | null => exact absurd rfl present
  | bool | number | text | list | object => exact Option.map_eq_bind

namespace Layout.FieldAt
variable {α β : Type} {layout : Layout α} {key : String} {format : Format β} {position : Nat}

theorem mem_keys (field : layout.FieldAt key format position) : key ∈ layout.keys := by
  induction field with
  | first => exact List.mem_cons_self
  | later _ ih => exact List.mem_cons_of_mem _ ih

/-- The members of a record are read through any that has the key of a field, by induction on the
fields before it. If another one has the same key, nothing is read at all.
-/
theorem readMembers?_through (field : layout.FieldAt key format position)
    (distinct : layout.keys.Nodup) (before after : List (Literal × Json))
    : Through format.read? fun json =>
        layout.readMembers? (before ++ (some key, json) :: after) := by
  induction field with
  | @first _ absent rest =>
      obtain ⟨own, _⟩ := List.nodup_cons.mp distinct
      simp only [readMembers?_field, readMembers?_insert own, valuesOf_insert_self]
      by_cases alone : valuesOf key before = [] ∧ valuesOf key after = []
      · rw [alone.1, alone.2]
        exact (Through.refl format.read?).bind _
      · refine ⟨fun _ => none, fun json _ => ?_⟩
        have several : 1 < (valuesOf key before ++ json :: valuesOf key after).length := by
          rw [List.length_append, List.length_cons]
          rcases not_and_or.mp alone with early | late
          · have some := List.length_pos_iff.mpr early
            omega
          · have some := List.length_pos_iff.mpr late
            omega
        simp only [Format.only?_of_several several, Option.bind_none, Option.bind_fun_none]
  | @later position _ _ other own absent rest behind ih =>
      obtain ⟨head, distinct⟩ := List.nodup_cons.mp distinct
      have apart : key ≠ other := by
        rintro rfl
        exact head behind.mem_keys
      simp only [readMembers?_field, valuesOf_insert_of_ne apart, Option.map_eq_bind]
      exact (ih distinct).bind_before _ _

/-- The items of a record are read through any that has a field, by induction on the fields before
it.
-/
theorem readItems?_through {before : List Json}
    (field : layout.FieldAt key format before.length) (after : List Json)
    : Through format.read? fun json => layout.readItems? (before ++ json :: after) := by
  generalize length : before.length = position at field
  induction field generalizing before with
  | @first _ absent rest =>
      obtain rfl := List.eq_nil_of_length_eq_zero length
      exact (Through.refl format.read?).bind fun value =>
        (rest.readItems? after).bind fun later => some (value, later)
  | @later position _ _ other own absent rest behind ih =>
      cases before with
      | nil => cases length
      | cons head items =>
          exact (ih (Nat.succ.inj length)).bind_before (own.read? head) fun value later =>
            some (value, later)

end Layout.FieldAt

namespace Schema
variable {ρ γ : Type} {schema : Schema ρ} {format : Format γ} {key : String}

/-- A record that is written as an object is read through the member of a field. -/
theorem object_through {position : Nat} (field : schema.layout.FieldAt key format position)
    (before after : List (Literal × Json))
    : Through format.read? fun json =>
        schema.format.read? (.object (before ++ (some key, json) :: after)) := by
  have keyed (json : Json)
      : (before ++ (some key, json) :: after).all (fun member => member.1.isSome)
        = (before ++ after).all fun member => member.1.isSome := by
    simp
  show Through format.read? fun json =>
    schema.read? (.object (before ++ (some key, json) :: after))
  simp only [read?, keyed]
  split
  · exact (field.readMembers?_through schema.keys_nodup before after).map schema.pack
  · exact ⟨fun _ => none, fun json _ => (Option.bind_fun_none (format.read? json)).symm⟩

/-- A record that is written as a list is read through the item of a field. -/
theorem list_through {before : List Json}
    (field : schema.layout.FieldAt key format before.length) (after : List Json)
    : Through format.read? fun json =>
        schema.format.read? (.list (before ++ json :: after)) :=
  (field.readItems?_through after).map schema.pack

end Schema

-----------------------------------------------------------------------------------------
-- Reading through a place
-----------------------------------------------------------------------------------------

namespace Place
variable {α β : Type} {inner : Format β} {outer : Format α} {hole : Json → Json}

theorem hole_ne_null (place : Place inner outer hole) {json : Json} (filled : json ≠ .null)
    : hole json ≠ .null := by
  induction place with
  | here => exact filled
  | optional _ ih => exact ih
  | item | member | slot => nofun

/-- A document with a hole at a place is read through the hole, by induction on the place. -/
theorem through (place : Place inner outer hole)
    : Through inner.read? fun json => outer.read? (hole json) := by
  induction place with
  | here => exact .refl _
  | item place before after ih =>
      exact ih.trans (fun _ => place.hole_ne_null) (mapM_through _ before after)
  | optional place ih =>
      exact ih.trans (fun _ => place.hole_ne_null) (optional_through _)
  | member field place before after ih =>
      exact ih.trans (fun _ => place.hole_ne_null) (Schema.object_through field before after)
  | slot field place after ih =>
      exact ih.trans (fun _ => place.hole_ne_null) (Schema.list_through field after)

/-- What is read the same at a place is read the same in the whole document. -/
theorem read?_congr (place : Place inner outer hole) {json other : Json}
    (filled : json ≠ .null) (present : other ≠ .null)
    (same : inner.read? json = inner.read? other)
    : outer.read? (hole json) = outer.read? (hole other) := by
  obtain ⟨finish, read⟩ := place.through
  calc outer.read? (hole json)
    _ = (inner.read? json).bind finish := read json filled
    _ = (inner.read? other).bind finish := by rw [same]
    _ = outer.read? (hole other) := (read other present).symm

/-- A document is not read with what is not read at a place of it. -/
theorem read?_eq_none (place : Place inner outer hole) {json : Json} (filled : json ≠ .null)
    (unread : inner.read? json = none)
    : outer.read? (hole json) = none := by
  obtain ⟨finish, read⟩ := place.through
  calc outer.read? (hole json)
    _ = (inner.read? json).bind finish := read json filled
    _ = none := by rw [unread, Option.bind_none]

end Place

end GuestLaunch.Json
