import GuestLaunch.Json.Literal

/-!
Lexemes of JSON. One pass over a text cuts it into marks, words and literals; blanks only
separate. What a word or a literal says is decided afterwards, so that the pass itself can
only fail at a literal that is not closed.
-/

namespace GuestLaunch.Json

/-- A piece of JSON text. -/
inductive Lexeme where
  /-- A bracket, a brace, a comma or a colon. -/
  | mark (symbol : Char)
  /-- A run of other characters. -/
  | word (symbols : List Char)
  /-- What stands between two quotes. -/
  | quoted (raw : List Char)
deriving DecidableEq, Repr

namespace Lexeme

/-- Whether a character separates lexemes without being one. -/
def isSeparator (symbol : Char) : Bool :=
  symbol == ' ' || symbol == '\t' || symbol == '\n' || symbol == '\r'

/-- Whether a character is a lexeme by itself. -/
def isMark (symbol : Char) : Bool :=
  ['[', ']', '\x7b', '\x7d', ',', ':'].contains symbol

/-- The lexeme that a pass over a text has begun, with its characters in reverse. -/
inductive Begun where
  | nothing
  | word (symbols : List Char)
  | quoted (raw : List Char)
  /-- Inside a literal, directly after a backslash. -/
  | escaped (raw : List Char)
deriving DecidableEq, Repr

/-- The state of a pass over a text: the complete lexemes, the latest first, and the one that
has begun.
-/
structure Scan where
  complete : List Lexeme := []
  begun : Begun := .nothing
deriving DecidableEq, Repr

/-- Takes a character that follows complete lexemes. -/
def Scan.start (complete : List Lexeme) (symbol : Char) : Scan :=
  if isSeparator symbol then { complete }
  else if isMark symbol then { complete := .mark symbol :: complete }
  else if symbol = '"' then { complete, begun := .quoted [] }
  else { complete, begun := .word [symbol] }

/-- Takes one character of the text. -/
def Scan.step (scan : Scan) (symbol : Char) : Scan :=
  match scan.begun with
  | .nothing => Scan.start scan.complete symbol
  | .word symbols =>
      if isSeparator symbol || isMark symbol || symbol = '"' then
        Scan.start (.word symbols.reverse :: scan.complete) symbol
      else
        { scan with begun := .word (symbol :: symbols) }
  | .quoted raw =>
      if symbol = '"' then { complete := .quoted raw.reverse :: scan.complete }
      else if symbol = '\\' then { scan with begun := .escaped (symbol :: raw) }
      else { scan with begun := .quoted (symbol :: raw) }
  | .escaped raw => { scan with begun := .quoted (symbol :: raw) }

/-- The lexemes at the end of the text; none where a literal is not closed. -/
def Scan.finish? (scan : Scan) : Option (List Lexeme) :=
  match scan.begun with
  | .nothing => some scan.complete.reverse
  | .word symbols => some (.word symbols.reverse :: scan.complete).reverse
  | .quoted _ | .escaped _ => none

/-- The lexemes of a text. -/
def all? (text : List Char) : Option (List Lexeme) :=
  (text.foldl Scan.step {}).finish?

end Lexeme

end GuestLaunch.Json
