import GuestLaunch.Json.Format

/-!
Layouts of records. One table of fields, each with its key, its format and the value it has
where it is left out, says how a record is read and written. A record may be written as an
object, whose members come in any order, or as a list of the leading fields.
-/

namespace GuestLaunch.Json

/-- The fields of a record in their order, and with them the type of their values. -/
inductive Layout : Type → Type 1 where
  | done : Layout Unit
  | field {α β : Type} (key : String) (format : Format α) (absent : α) (rest : Layout β)
    : Layout (α × β)

/-- The values of the members with a key. -/
def valuesOf (key : String) (members : List (Literal × Json)) : List Json :=
  (members.filter fun member => member.1 == some key).map (·.2)

namespace Layout

/-- The keys of the fields. -/
def keys {α : Type} : Layout α → List String
  | done => []
  | field key _ _ rest => key :: rest.keys

/-- The values of the fields where all of them are left out. -/
def blank {α : Type} : Layout α → α
  | done => ()
  | field _ _ absent rest => (absent, rest.blank)

/-- Reads the fields from the members of an object; a key must not be repeated, and members
with other keys are skipped.
-/
def readMembers? {α : Type} (members : List (Literal × Json)) : Layout α → Option α
  | done => some ()
  | field key format absent rest => do
      let value ←
        match valuesOf key members with
        | [] => some absent
        | [json] => format.read? json
        | _ => none
      let later ← rest.readMembers? members
      some (value, later)

/-- Reads the fields from a list, which may leave out the last ones. -/
def readItems? {α : Type} : Layout α → List Json → Option α
  | done, [] => some ()
  | done, _ :: _ => none
  | field _ _ absent rest, [] => some (absent, rest.blank)
  | field _ format _ rest, item :: items => do
      let value ← format.read? item
      let later ← rest.readItems? items
      some (value, later)

/-- The members that write the fields, one for each. -/
def write {α : Type} : Layout α → α → List (String × Json)
  | done, _ => []
  | field key format _ rest, (value, later) => (key, format.write value) :: rest.write later

/-- Every field is written under its own key, in the order of the layout, by induction on it. -/
theorem keys_write {α : Type} (layout : Layout α) (values : α)
    : (layout.write values).map (·.1) = layout.keys := by
  induction layout with
  | done => rfl
  | field key format absent rest ih => simp [write, keys, ih]

/-- An empty list leaves out all fields. -/
theorem readItems?_nil {α : Type} (layout : Layout α)
    : layout.readItems? [] = some layout.blank := by
  cases layout <;> rfl

end Layout

/-- A record type with the layout of its fields, which have different keys. -/
structure Schema (ρ : Type) where
  {Fields : Type}
  layout : Layout Fields
  keys_nodup : layout.keys.Nodup := by decide
  pack : Fields → ρ
  unpack : ρ → Fields
  pack_unpack : ∀ record, pack (unpack record) = record := by intro _; rfl
  unpack_pack : ∀ fields, unpack (pack fields) = fields := by intro _; rfl

namespace Schema

/-- The record with every field left out. -/
def blank {ρ : Type} (schema : Schema ρ) : ρ := schema.pack schema.layout.blank

/-- Reads a record. The keys of an object have to be texts, known or not. -/
def read? {ρ : Type} (schema : Schema ρ) : Json → Option ρ
  | .object members =>
      if members.all fun member => member.1.isSome then
        (schema.layout.readMembers? members).map schema.pack
      else
        none
  | .list items => (schema.layout.readItems? items).map schema.pack
  | _ => none

/-- The format of a record, which is written as an object with all its fields. -/
def format {ρ : Type} (schema : Schema ρ) : Format ρ where
  read? := schema.read?
  write record := ofFields (schema.layout.write (schema.unpack record))

end Schema

end GuestLaunch.Json
