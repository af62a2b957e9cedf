import GuestLaunch.Json.Lexeme

/-!
Reading JSON. Lexemes become tokens, and a machine with a stack of unfinished lists and
objects takes the tokens one by one. The grammar is the strict one: no trailing commas, no
comments, and nothing behind the value.
-/

namespace GuestLaunch.Json

/-- A lexeme with its meaning. -/
inductive Token where
  | openList
  | closeList
  | openObject
  | closeObject
  | comma
  | colon
  | literal (value : Literal)
  /-- A value without parts that is not a literal. -/
  | leaf (value : Json)
deriving Repr

/-- The meaning of a word: one of three keywords or a number. -/
def Token.ofWord? (symbols : List Char) : Option Token :=
  if symbols = "null".toList then some (.leaf .null)
  else if symbols = "true".toList then some (.leaf (.bool true))
  else if symbols = "false".toList then some (.leaf (.bool false))
  else (Number.read? symbols).map fun value => .leaf (.number value)

/-- The meaning of a mark. -/
def Token.ofMark? : Char → Option Token
  | '[' => some .openList
  | ']' => some .closeList
  | '\x7b' => some .openObject
  | '\x7d' => some .closeObject
  | ',' => some .comma
  | ':' => some .colon
  | _ => none

/-- The meaning of a lexeme. -/
def Token.ofLexeme? : Lexeme → Option Token
  | .mark symbol => ofMark? symbol
  | .word symbols => ofWord? symbols
  | .quoted raw => (Literal.read? raw).map .literal

namespace Parser

/-- A list or an object around the value that is being read; its parts are in reverse. -/
inductive Frame where
  | list (items : List Json)
  | member (members : List (Literal × Json)) (key : Literal)
deriving Repr

/-- What the next token has to be. -/
inductive Due where
  /-- A value. -/
  | value
  /-- The first item of a list, or its end. -/
  | itemOrEnd
  /-- A key of an object with the given members, or its end where that is allowed. -/
  | key (members : List (Literal × Json)) (mayEnd : Bool)
  /-- The colon after a key. -/
  | colon (members : List (Literal × Json)) (key : Literal)
  /-- What may follow a complete value. -/
  | after (value : Json)
deriving Repr

/-- The state of the machine. -/
structure State where
  frames : List Frame := []
  due : Due := .value
deriving Repr

/-- Takes the first token of a value. -/
def State.enter (frames : List Frame) : Token → Option State
  | .leaf value => some { frames, due := .after value }
  | .literal value => some { frames, due := .after (.text value) }
  | .openList => some { frames := .list [] :: frames, due := .itemOrEnd }
  | .openObject => some { frames, due := .key [] true }
  | _ => none

/-- Takes the token behind a complete value. -/
def State.leave (value : Json) : List Frame → Token → Option State
  | .list items :: frames, .comma =>
      some { frames := .list (value :: items) :: frames, due := .value }
  | .list items :: frames, .closeList =>
      some { frames, due := .after (.list (value :: items).reverse) }
  | .member members key :: frames, .comma =>
      some { frames, due := .key ((key, value) :: members) false }
  | .member members key :: frames, .closeObject =>
      some { frames, due := .after (.object ((key, value) :: members).reverse) }
  | _, _ => none

/-- Takes one token. -/
def State.step (state : State) (token : Token) : Option State :=
  match state.due with
  | .value => State.enter state.frames token
  | .itemOrEnd =>
      match token, state.frames with
      | .closeList, .list items :: frames =>
          some { frames, due := .after (.list items.reverse) }
      | token, frames => State.enter frames token
  | .key members mayEnd =>
      match token with
      | .literal key => some { state with due := .colon members key }
      | .closeObject =>
          if mayEnd then some { state with due := .after (.object members.reverse) } else none
      | _ => none
  | .colon members key =>
      match token with
      | .colon => some { frames := .member members key :: state.frames, due := .value }
      | _ => none
  | .after value => State.leave value state.frames token

/-- The value that has been read, where it is complete. -/
def State.value? : State → Option Json
  | { frames := [], due := .after value } => some value
  | _ => none

/-- The value of a sequence of tokens. -/
def run? (tokens : List Token) : Option Json :=
  (tokens.foldlM State.step {}).bind State.value?

end Parser

/-- Reads a text that holds exactly one value. -/
def parse? (text : String) : Option Json := do
  let lexemes ← Lexeme.all? text.toList
  let tokens ← lexemes.mapM Token.ofLexeme?
  Parser.run? tokens

end GuestLaunch.Json
