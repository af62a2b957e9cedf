import GuestLaunch.Json.Literal

/-!
Writing JSON over several lines. The parts of a list or an object stand on lines of their own,
two blanks deeper than the brackets around them; an empty list or object stands on one line.
-/

namespace GuestLaunch.Json

/-- The start of a line at a level of nesting. -/
def newLine (level : Nat) : List Char := '\n' :: List.replicate (2 * level) ' '

/-- The written form of a key, with what separates it from its value. -/
def writeKey (key : Literal) : List Char := Literal.write key ++ [':', ' ']

mutual

/-- The written form of a value that starts at a level of nesting. -/
def write (level : Nat) : Json → List Char
  | null => "null".toList
  | bool true => "true".toList
  | bool false => "false".toList
  | number value => value.write
  | text value => Literal.write value
  | list [] => ['[', ']']
  | list (item :: rest) =>
      '[' :: (newLine (level + 1) ++ write (level + 1) item ++ writeItems (level + 1) rest
        ++ newLine level ++ [']'])
  | object [] => ['\x7b', '\x7d']
  | object ((key, value) :: rest) =>
      '\x7b' :: (newLine (level + 1) ++ writeKey key ++ write (level + 1) value
        ++ writeMembers (level + 1) rest ++ newLine level ++ ['\x7d'])

/-- The written form of the items after the first. -/
def writeItems (level : Nat) : List Json → List Char
  | [] => []
  | item :: rest => ',' :: (newLine level ++ write level item ++ writeItems level rest)

/-- The written form of the members after the first. -/
def writeMembers (level : Nat) : List (Literal × Json) → List Char
  | [] => []
  | (key, value) :: rest =>
      ',' :: (newLine level ++ writeKey key ++ write level value ++ writeMembers level rest)

end

/-- The text of a value. -/
def pretty (value : Json) : String := String.ofList (write 0 value)

end GuestLaunch.Json
