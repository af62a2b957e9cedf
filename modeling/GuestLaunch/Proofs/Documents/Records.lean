import GuestLaunch.Proofs.Documents.Places
import GuestLaunch.Proofs.Documents.RoundTrip
import Mathlib.Logic.Relation

/-!
Objects are read as records. Neither the order of the members nor any members with other keys
matter to what is read, and an object that repeats a key of its record is not read at all. This
holds of every record in a document, however deep it stands.
-/

namespace GuestLaunch.Json

-----------------------------------------------------------------------------------------
-- The order of members
-----------------------------------------------------------------------------------------

/-- Two orders of the same values are one, or there are several values. -/
theorem eq_or_several_of_perm {α : Type} {left right : List α} (perm : left.Perm right)
    : left = right ∨ (1 < left.length ∧ 1 < right.length) := by
  match left with
  | [] => exact Or.inl (List.nil_perm.mp perm).symm
  | [_] => exact Or.inl (List.singleton_perm.mp perm)
  | _ :: _ :: _ => exact Or.inr ⟨by simp, by simp [← perm.length_eq]⟩

variable {members others : List (Literal × Json)}

theorem valuesOf_perm (perm : members.Perm others) (key : String)
    : (valuesOf key members).Perm (valuesOf key others) :=
  (perm.filter _).map _

/-- A field is read the same in whatever order its key is given values. -/
theorem Format.only?_perm {α : Type} (format : Format α) (absent : α)
    {left right : List Json} (perm : left.Perm right)
    : format.only? absent left = format.only? absent right := by
  rcases eq_or_several_of_perm perm with rfl | ⟨several, others⟩
  · rfl
  · rw [only?_of_several several, only?_of_several others]

/-- Fields are read the same from members in any order, by induction on the layout. -/
theorem Layout.readMembers?_perm {α : Type} (layout : Layout α) (perm : members.Perm others)
    : layout.readMembers? members = layout.readMembers? others := by
  induction layout with
  | done => rfl
  | field key format absent rest ih =>
      rw [readMembers?_field, readMembers?_field, ih,
        format.only?_perm absent (valuesOf_perm perm key)]

/-- Fields are not read from members that repeat one of their keys, by induction on the layout. -/
theorem Layout.readMembers?_repeats {α : Type} {layout : Layout α} {key : String}
    (known : key ∈ layout.keys) (repeats : 1 < (valuesOf key members).length)
    : layout.readMembers? members = none := by
  induction layout with
  | done => cases known
  | field own format absent rest ih =>
      rw [readMembers?_field]
      rcases List.mem_cons.mp known with rfl | later
      · rw [Format.only?_of_several repeats, Option.bind_none]
      · simp only [ih later, Option.map_none, Option.bind_fun_none]

namespace Schema
variable {ρ : Type} (schema : Schema ρ)

theorem read?_perm (perm : members.Perm others)
    : schema.format.read? (.object members) = schema.format.read? (.object others) := by
  show schema.read? (.object members) = schema.read? (.object others)
  rw [read?, read?, perm.all_eq, schema.layout.readMembers?_perm perm]

variable {schema}

theorem read?_insert {key : String} (unknown : key ∉ schema.layout.keys) (json : Json)
    (before after : List (Literal × Json))
    : schema.format.read? (.object (before ++ (some key, json) :: after))
      = schema.format.read? (.object (before ++ after)) := by
  show schema.read? (.object (before ++ (some key, json) :: after))
    = schema.read? (.object (before ++ after))
  have keyed : (before ++ (some key, json) :: after).all (fun member => member.1.isSome)
      = (before ++ after).all fun member => member.1.isSome := by
    simp
  rw [read?, read?, keyed, Layout.readMembers?_insert unknown]

theorem read?_repeats {key : String} (known : key ∈ schema.layout.keys)
    (repeats : 1 < (valuesOf key members).length)
    : schema.format.read? (.object members) = none := by
  show schema.read? (.object members) = none
  rw [read?, Layout.readMembers?_repeats known repeats, Option.map_none, ite_self]

end Schema

/-- The nesting of members does not depend on their order, by induction on it. -/
theorem depthOfMembers_perm (perm : members.Perm others)
    : depthOfMembers members = depthOfMembers others := by
  induction perm with
  | nil => rfl
  | cons member _ ih => rw [depthOfMembers, depthOfMembers, ih]
  | swap first second rest =>
      simp only [depthOfMembers]
      omega
  | trans _ _ first second => exact first.trans second

/-- Whether members are plain does not depend on their order, by induction on it. -/
theorem membersArePlain_perm (perm : members.Perm others)
    : membersArePlain members = membersArePlain others := by
  induction perm with
  | nil => rfl
  | cons member _ ih => rw [membersArePlain, membersArePlain, ih]
  | swap first second rest =>
      simp only [membersArePlain]
      exact Bool.and_left_comm _ _ _
  | trans _ _ first second => exact first.trans second

end GuestLaunch.Json

namespace GuestLaunch
open Json

-----------------------------------------------------------------------------------------
-- The source of a migration
-----------------------------------------------------------------------------------------

namespace Migration
variable {members others : List (Literal × Json)}

theorem onlyValue?_of_several {key : String} (several : 1 < (valuesOf key members).length)
    : onlyValue? members key = none := by
  unfold onlyValue?
  split
  · next only =>
      rw [only] at several
      cases Nat.lt_irrefl _ several
  · rfl

theorem onlyValue?_perm (perm : members.Perm others)
    : onlyValue? members = onlyValue? others := by
  funext key
  rcases eq_or_several_of_perm (valuesOf_perm perm key) with same | ⟨several, more⟩
  · rw [onlyValue?, onlyValue?, same]
  · rw [onlyValue?_of_several several, onlyValue?_of_several more]

/-- A source is read the same from its members in any order, wherever its type tag stands. -/
theorem read?_perm (outer : Nat) (perm : members.Perm others)
    : (Migration.format outer).read? (.object members)
      = (Migration.format outer).read? (.object others) := by
  have readable : isReadable outer (.object members) = isReadable outer (.object others) := by
    rw [isReadable, isReadable, isPlain, isPlain, depth, depth, membersArePlain_perm perm,
      depthOfMembers_perm perm]
  show read? outer (.object members) = read? outer (.object others)
  rw [read?, read?, readable, ofMembers?, ofMembers?, onlyValue?_perm perm]

end Migration

-----------------------------------------------------------------------------------------
-- Edits
-----------------------------------------------------------------------------------------

/-- An edit of a document that is read with a format. -/
inductive Edit {α : Type} (outer : Format α) : Json → Json → Prop
  /-- The members of a record are put in another order. -/
  | permute {ρ : Type} {schema : Schema ρ} {hole : Json → Json}
    {members others : List (Literal × Json)} (place : Place schema.format outer hole)
    (perm : members.Perm others)
    : Edit outer (hole (.object members)) (hole (.object others))
  /-- The members of the source of a migration are put in another order. -/
  | permuteSource {level : Nat} {hole : Json → Json} {members others : List (Literal × Json)}
    (place : Place (Migration.format level) outer hole) (perm : members.Perm others)
    : Edit outer (hole (.object members)) (hole (.object others))
  /-- A record is given a member with a key of no field and any value. The key is a text, which
  every key of a record has to be.
  -/
  | insert {ρ : Type} {schema : Schema ρ} {hole : Json → Json} {key : String} {json : Json}
    {before after : List (Literal × Json)} (place : Place schema.format outer hole)
    (unknown : key ∉ schema.layout.keys)
    : Edit outer (hole (.object (before ++ after)))
        (hole (.object (before ++ (some key, json) :: after)))

/-- A document has a record that is written as an object and repeats the key of a field. -/
inductive RepeatsKey {α : Type} (outer : Format α) : Json → Prop
  | object {ρ : Type} {schema : Schema ρ} {hole : Json → Json} {key : String}
    {members : List (Literal × Json)} (place : Place schema.format outer hole)
    (known : key ∈ schema.layout.keys) (repeats : 1 < (valuesOf key members).length)
    : RepeatsKey outer (hole (.object members))

section Edits
variable {α : Type} {outer : Format α} {document other : Json}

/-- An edit does not change what is read, by the kind of the edit. -/
theorem Edit.read?_eq (edit : Edit outer document other)
    : outer.read? other = outer.read? document := by
  cases edit with
  | permute place perm =>
      exact (place.read?_congr (by nofun) (by nofun) (Schema.read?_perm _ perm)).symm
  | permuteSource place perm =>
      exact (place.read?_congr (by nofun) (by nofun) (Migration.read?_perm _ perm)).symm
  | insert place unknown =>
      exact place.read?_congr (by nofun) (by nofun) (Schema.read?_insert unknown _ _ _)

/-- No number of edits changes what is read, by induction on it. -/
theorem read?_eq_of_edits (edits : Relation.ReflTransGen (Edit outer) document other)
    : outer.read? other = outer.read? document := by
  induction edits with
  | refl => rfl
  | tail _ edit ih => exact edit.read?_eq.trans ih

theorem RepeatsKey.read?_eq_none (repeats : RepeatsKey outer document)
    : outer.read? document = none := by
  cases repeats with
  | object place known several =>
      exact place.read?_eq_none (by nofun) (Schema.read?_repeats known several)

end Edits

/-- The text of a configuration is read as records: edits of the document do not change the
configuration, whatever text the edited document has, and no text of a document that repeats a key
is read.
-/
theorem Config.parse?_records {text : String} {document : Json}
    (parsed : Json.parse? text = some document)
    : (∀ edited other,
          Json.parse? edited = some other
          → Relation.ReflTransGen (Edit Config.schema.format) document other
          → Config.parse? edited = Config.parse? text)
      ∧ (RepeatsKey Config.schema.format document → Config.parse? text = none) := by
  constructor
  · intro edited other again edits
    rw [parse?, parse?, parsed, again, Option.bind_some, Option.bind_some,
      read?_eq_of_edits edits]
  · intro repeats
    rw [parse?, parsed, Option.bind_some, repeats.read?_eq_none]

/-- The document of a guest with a card and a source of its state. -/
def guestDocument (card source : Json) : Json :=
  .object [(some "net-devices", .list [card]), (some "incoming", source)]

/-- A card and a source with their members in the usual order. -/
def tidyDocument : Json :=
  guestDocument (ofFields [("id", ofString "n0"), ("driver", ofString "virtio-net")])
    (ofFields [("type", ofString "fd"), ("fd", ofInt 9)])

/-- The same card with a comment, and the same source with its type tag last. -/
def untidyDocument : Json :=
  guestDocument
    (ofFields
      [("driver", ofString "virtio-net"), ("comment", .list [.null]), ("id", ofString "n0")])
    (ofFields [("fd", ofInt 9), ("type", ofString "fd")])

/-- A card that repeats its identifier. -/
def repeatingDocument : Json :=
  guestDocument (ofFields [("id", ofString "n0"), ("id", ofString "n0")])
    (ofFields [("type", ofString "none")])

theorem parse?_guestDocument {card source : Json} (card_wellFormed : card.WellFormed)
    (source_wellFormed : source.WellFormed)
    : Json.parse? (guestDocument card source).pretty = some (guestDocument card source) := by
  apply parse?_pretty_of_wellFormed
  exact ⟨⟨card_wellFormed, trivial⟩, source_wellFormed, trivial⟩

theorem place_card (source : Json)
    : Place NetDevice.schema.format Config.schema.format fun card =>
        guestDocument card source := by
  have cards : Config.schema.layout.FieldAt "net-devices" (.list NetDevice.schema.format) 17 := by
    repeat refine .later ?_
    exact .first
  exact .member cards (.item .here [] []) [] [(some "incoming", source)]

theorem place_source (card : Json)
    : Place (Migration.format Config.incomingLevel) Config.schema.format fun source =>
        guestDocument card source := by
  have sources : Config.schema.layout.FieldAt "incoming"
      (Migration.format Config.incomingLevel) 33 := by
    repeat refine .later ?_
    exact .first
  exact .member sources .here [(some "net-devices", .list [card])] []

/-- The untidy document is the tidy one after three edits, each at a place of its own. -/
theorem untidyDocument_edits
    : Relation.ReflTransGen (Edit Config.schema.format) tidyDocument untidyDocument := by
  let id : Literal × Json := (some "id", ofString "n0")
  let driver : Literal × Json := (some "driver", ofString "virtio-net")
  let untidySource : Json := .object [(some "fd", ofInt 9), (some "type", ofString "fd")]
  have source : Edit Config.schema.format tidyDocument
      (guestDocument (.object [id, driver]) untidySource) :=
    .permuteSource (place_source _) (.swap _ _ [])
  have card : Edit Config.schema.format (guestDocument (.object [id, driver]) untidySource)
      (guestDocument (.object [driver, id]) untidySource) :=
    .permute (place_card _) (.swap _ _ [])
  have comment : Edit Config.schema.format
      (guestDocument (.object ([driver] ++ [id])) untidySource) untidyDocument :=
    .insert (place_card _) (by decide)
  exact .tail (.tail (.single source) card) comment

/-- The untidy document is read as the tidy one, and the repeating one is not read. -/
theorem parse?_records_guestDocument
    : (Config.parse? tidyDocument.pretty).isSome = true
      ∧ Json.parse? tidyDocument.pretty = some tidyDocument
      ∧ Json.parse? untidyDocument.pretty = some untidyDocument
      ∧ Relation.ReflTransGen (Edit Config.schema.format) tidyDocument untidyDocument
      ∧ Config.parse? untidyDocument.pretty = Config.parse? tidyDocument.pretty
      ∧ RepeatsKey Config.schema.format repeatingDocument
      ∧ Config.parse? repeatingDocument.pretty = none := by
  have tidy : Json.parse? tidyDocument.pretty = some tidyDocument :=
    parse?_guestDocument (by simp [wellFormed_ofFields, ofString, WellFormed])
      (by simp [wellFormed_ofFields, ofString, WellFormed, wellFormed_ofInt])
  have untidy : Json.parse? untidyDocument.pretty = some untidyDocument :=
    parse?_guestDocument
      (by simp [wellFormed_ofFields, ofString, WellFormed, ItemsWellFormed])
      (by simp [wellFormed_ofFields, ofString, WellFormed, wellFormed_ofInt])
  have repeating : Json.parse? repeatingDocument.pretty = some repeatingDocument :=
    parse?_guestDocument (by simp [wellFormed_ofFields, ofString, WellFormed])
      (by simp [wellFormed_ofFields, ofString, WellFormed])
  have known : "id" ∈ NetDevice.schema.layout.keys := by decide
  have twice : 1 < (valuesOf "id"
      [(some "id", ofString "n0"), (some "id", ofString "n0")]).length := by
    decide
  have repeats : RepeatsKey Config.schema.format repeatingDocument := by
    have object := RepeatsKey.object (place_card (ofFields [("type", ofString "none")])) known
      twice
    exact object
  have accepted : (Config.parse? tidyDocument.pretty).isSome = true := by
    rw [Config.parse?, tidy]
    decide +kernel
  have read := (Config.parse?_records tidy).1 _ _ untidy untidyDocument_edits
  exact ⟨accepted, tidy, untidy, untidyDocument_edits, read, repeats,
    (Config.parse?_records repeating).2 repeats⟩

end GuestLaunch
