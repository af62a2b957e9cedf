import GuestLaunch.Json.Number

/-!
Values of JSON. An object keeps its members in their order and may repeat a key; what a
repeated or an unknown key means is up to the reader of the object.
-/

namespace GuestLaunch

namespace Json

/-- The text of a literal between quotes. A literal whose escapes leave a surrogate unpaired
is well formed but has no text: it may be skipped, never read.
-/
abbrev Literal := Option String

end Json

/-- A value of JSON. -/
inductive Json where
  | null
  | bool (value : Bool)
  | number (value : Json.Number)
  | text (value : Json.Literal)
  | list (items : List Json)
  | object (members : List (Json.Literal × Json))
deriving Repr, Inhabited

namespace Json

/-- A value with the text of a string. -/
def ofString (value : String) : Json := text (some value)

/-- A value with an integer. -/
def ofInt (value : Int) : Json := number (Number.ofInt value)

/-- An object with the given keys. -/
def ofFields (fields : List (String × Json)) : Json :=
  object (fields.map fun field => (some field.1, field.2))

mutual

/-- How deeply lists and objects are nested in a value. -/
def depth : Json → Nat
  | null | bool _ | number _ | text _ => 0
  | list items => depthOfItems items + 1
  | object members => depthOfMembers members + 1

/-- The depth of the deepest item. -/
def depthOfItems : List Json → Nat
  | [] => 0
  | item :: rest => max (depth item) (depthOfItems rest)

/-- The depth of the deepest member. -/
def depthOfMembers : List (Literal × Json) → Nat
  | [] => 0
  | (_, value) :: rest => max (depth value) (depthOfMembers rest)

end

mutual

/-- Whether every literal of a value has a text and every number is finite. -/
def isPlain : Json → Bool
  | null | bool _ => true
  | number value => value.isFinite
  | text value => value.isSome
  | list items => itemsArePlain items
  | object members => membersArePlain members

/-- Whether every item is plain. -/
def itemsArePlain : List Json → Bool
  | [] => true
  | item :: rest => isPlain item && itemsArePlain rest

/-- Whether every key has a text and every member is plain. -/
def membersArePlain : List (Literal × Json) → Bool
  | [] => true
  | (key, value) :: rest => key.isSome && isPlain value && membersArePlain rest

end

end Json

end GuestLaunch
