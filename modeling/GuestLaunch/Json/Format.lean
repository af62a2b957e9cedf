import GuestLaunch.Json.Basic

/-!
Formats: how values of one type are read from JSON and written to it. Nothing is converted
while reading: a number is not a string, and a number with a point is no integer.
-/

namespace GuestLaunch.Json

/-- A reader and a writer of one type. -/
structure Format (α : Type) where
  read? : Json → Option α
  write : α → Json

namespace Format

/-- Strings. -/
def string : Format String where
  read?
    | .text (some value) => some value
    | _ => none
  write := ofString

/-- Truth values. -/
def bool : Format Bool where
  read?
    | .bool value => some value
    | _ => none
  write := .bool

/-- Integers from `least` to `greatest`, kept in a type of their own. -/
def integer {α : Type} (least greatest : Int) (ofInt : Int → α) (toInt : α → Int)
    : Format α where
  read?
    | .number written => do
        let value ← written.toInt?
        if least ≤ value ∧ value ≤ greatest then some (ofInt value) else none
    | _ => none
  write value := Json.ofInt (toInt value)

/-- Natural numbers of eight bits. -/
def uint8 : Format UInt8 :=
  integer 0 (UInt8.size - 1) (fun value => UInt8.ofNat value.toNat) (fun value => value.toNat)

/-- Natural numbers of sixteen bits. -/
def uint16 : Format UInt16 :=
  integer 0 (UInt16.size - 1) (fun value => UInt16.ofNat value.toNat) (fun value => value.toNat)

/-- Natural numbers of 32 bits. -/
def uint32 : Format UInt32 :=
  integer 0 (UInt32.size - 1) (fun value => UInt32.ofNat value.toNat) (fun value => value.toNat)

/-- Natural numbers of 64 bits. -/
def uint64 : Format UInt64 :=
  integer 0 (UInt64.size - 1) (fun value => UInt64.ofNat value.toNat) (fun value => value.toNat)

/-- Integers of 32 bits. -/
def int32 : Format Int32 :=
  integer Int32.minValue.toInt Int32.maxValue.toInt Int32.ofInt Int32.toInt

/-- Lists of values of one format. -/
def list {α : Type} (item : Format α) : Format (List α) where
  read?
    | .list items => items.mapM item.read?
    | _ => none
  write values := .list (values.map item.write)

/-- Values that may be left out by writing `null`. -/
def optional {α : Type} (value : Format α) : Format (Option α) where
  read?
    | .null => some none
    | json => (value.read? json).map some
  write
    | none => .null
    | some inner => value.write inner

/-- Keywords. A keyword may also be written as an object with the keyword as its only key and
`null` as its value.
-/
def keyword {α : Type} (all : List α) (name : α → String) : Format α where
  read?
    | .text (some word) => all.find? fun value => name value == word
    | .object [(some word, .null)] => all.find? fun value => name value == word
    | _ => none
  write value := ofString (name value)

end Format

end GuestLaunch.Json
