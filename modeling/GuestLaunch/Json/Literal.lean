import GuestLaunch.Json.Basic

/-!
The written form of text in JSON. Any character may be escaped; a character outside the
basic plane is escaped as two surrogates. What is written escapes only what has to be.
-/

namespace GuestLaunch.Json
open Text

namespace Literal

/-- The letters that stand for one character after a backslash. -/
def shortEscapes : List (Char × Char) :=
  [('"', '"'), ('\\', '\\'), ('/', '/'), ('b', '\x08'), ('f', '\x0C'), ('n', '\n'),
    ('r', '\r'), ('t', '\t')]

/-- A part of a literal: a character, or a code unit that was written with four digits. -/
inductive Piece where
  | symbol (value : Char)
  | unit (code : Nat)
deriving DecidableEq, Repr

/-- Splits what stands between the quotes into its parts; none where an escape is not one, or
a control character is not escaped.
-/
def pieces? : List Char → Option (List Piece)
  | [] => some []
  | '\\' :: 'u' :: a :: b :: c :: d :: rest => do
      let code ← Numeral.digits? 16 [a, b, c, d]
      let later ← pieces? rest
      some (.unit code :: later)
  | '\\' :: letter :: rest => do
      let symbol ← shortEscapes.lookup letter
      let later ← pieces? rest
      some (.symbol symbol :: later)
  | symbol :: rest =>
      if symbol = '\\' ∨ symbol < ' ' then none
      else do
        let later ← pieces? rest
        some (.symbol symbol :: later)

/-- Whether a code unit is the first of a surrogate pair. -/
def isHighSurrogate (code : Nat) : Bool := 0xD800 ≤ code && code < 0xDC00

/-- Whether a code unit is the second of a surrogate pair. -/
def isLowSurrogate (code : Nat) : Bool := 0xDC00 ≤ code && code < 0xE000

/-- The character that a surrogate pair stands for. -/
def joinSurrogates (high low : Nat) : Char :=
  Char.ofNat (0x10000 + (high - 0xD800) * 0x400 + (low - 0xDC00))

/-- The text of the parts of a literal; none where a surrogate stands without the other. -/
def joinPieces? : List Piece → Option (List Char)
  | [] => some []
  | .symbol value :: rest => (joinPieces? rest).map (value :: ·)
  | [.unit code] =>
      if isHighSurrogate code || isLowSurrogate code then none else some [Char.ofNat code]
  | .unit code :: .symbol value :: rest =>
      if isHighSurrogate code || isLowSurrogate code then none
      else (joinPieces? rest).map fun later => Char.ofNat code :: value :: later
  | .unit high :: .unit low :: rest =>
      if isLowSurrogate high then none
      else if isHighSurrogate high then
        if isLowSurrogate low then (joinPieces? rest).map (joinSurrogates high low :: ·)
        else none
      else (joinPieces? (.unit low :: rest)).map (Char.ofNat high :: ·)

/-- Reads what stands between the quotes. -/
def read? (raw : List Char) : Option Literal :=
  (pieces? raw).map fun pieces => (joinPieces? pieces).map String.ofList

/-- The written form of one character. -/
def escape (symbol : Char) : List Char :=
  match symbol with
  | '"' => ['\\', '"']
  | '\\' => ['\\', '\\']
  | '\x08' => ['\\', 'b']
  | '\x0C' => ['\\', 'f']
  | '\n' => ['\\', 'n']
  | '\r' => ['\\', 'r']
  | '\t' => ['\\', 't']
  | _ =>
      if symbol < ' ' then '\\' :: 'u' :: Numeral.writePadded 16 4 symbol.toNat
      else [symbol]

/-- The written form of a literal, with its quotes. A literal without a text is written as a
single surrogate, which reads back as one.
-/
def write : Literal → List Char
  | some value => '"' :: (value.toList.flatMap escape ++ ['"'])
  | none => ['"', '\\', 'u', 'd', '8', '0', '0', '"']

end Literal

end GuestLaunch.Json
