import GuestLaunch.Json.Literal

/-!
Text that is written in JSON is read back: every character stands for itself or for its escape,
and no escape is a surrogate.
-/

namespace GuestLaunch

-----------------------------------------------------------------------------------------
-- Padded numerals
-----------------------------------------------------------------------------------------

namespace Text.Numeral

/-- A number below a power of the base has no more digits than the exponent says, by induction on
the exponent.
-/
theorem length_write_le {base : Nat} (large : 2 ≤ base) {places value : Nat}
    (below : value < base.pow (places + 1))
    : (write base value).length ≤ places + 1 := by
  induction places generalizing value with
  | zero =>
      have single : base < 2 ∨ value < base := Or.inr (by simpa using below)
      rw [write, if_pos single]
      exact Nat.le_refl 1
  | succ places ih =>
      rw [write]
      split
      · simp
      · have shorter : value / base < base ^ (places + 1) := by
          rw [Nat.div_lt_iff_lt_mul (by omega), ← Nat.pow_succ]
          exact below
        have digits := ih shorter
        rw [List.length_append, List.length_singleton]
        omega

theorem length_writePadded {base : Nat} (large : 2 ≤ base) {width value : Nat}
    (below : value < base.pow (width + 1))
    : (writePadded base (width + 1) value).length = width + 1 := by
  have digits := length_write_le large below
  rw [writePadded, List.length_append, List.length_replicate]
  omega

/-- Zeros before a number do not change its value, by induction on their number. -/
theorem digits?_replicate {base : Nat} (large : 2 ≤ base) (count : Nat) (symbols : List Char)
    : digits? base (List.replicate count '0' ++ symbols) = digits? base symbols := by
  have zero : digit? base '0' = some 0 := by
    have value : anyDigit? '0' = some 0 := by decide
    have below : 0 < base := by omega
    simp [digit?, value, below]
  induction count with
  | zero => rfl
  | succ count ih =>
      rw [List.replicate_succ, List.cons_append, digits?, List.foldlM_cons, zero]
      simpa [digits?] using ih

/-- A padded number is read as the number. -/
theorem digits?_writePadded {base : Nat} (large : 2 ≤ base) (small : base ≤ 16)
    (width value : Nat)
    : digits? base (writePadded base width value) = some value := by
  rw [writePadded, digits?_replicate large, digits?_write large small]

theorem exists_digitSymbol_of_mem_writePadded {base width value : Nat} {symbol : Char}
    (large : 2 ≤ base) (member : symbol ∈ writePadded base width value)
    : ∃ digit < base, symbol = digitSymbol digit := by
  rcases List.mem_append.mp member with zeros | digits
  · exact ⟨0, by omega, (List.mem_replicate.mp zeros).2⟩
  · exact exists_digitSymbol_of_mem_write large digits

end Text.Numeral

namespace Json.Literal
open Text

-----------------------------------------------------------------------------------------
-- Escapes
-----------------------------------------------------------------------------------------

/-- The characters whose written form is an escape of one letter. -/
def shortEscaped : List Char := ['"', '\\', '\x08', '\x0C', '\n', '\r', '\t']

/-- The part of a literal as which the written form of a character is read. -/
def pieceOf (symbol : Char) : Piece :=
  if symbol < ' ' ∧ symbol ∉ shortEscaped then .unit symbol.toNat else .symbol symbol

/-- A short escape is a letter behind a backslash that stands for the character. -/
theorem escape_of_mem
    : ∀ symbol ∈ shortEscaped,
        ∃ letter ∈ ['"', '\\', 'b', 'f', 'n', 'r', 't'],
          escape symbol = ['\\', letter] ∧ shortEscapes.lookup letter = some symbol := by
  simp [shortEscaped, escape, shortEscapes, List.lookup_cons]

/-- Any other character is escaped by its number if it is a control character, and otherwise
stands for itself.
-/
theorem escape_of_not_mem {symbol : Char} (long : symbol ∉ shortEscaped)
    : escape symbol
      = if symbol < ' ' then '\\' :: 'u' :: Numeral.writePadded 16 4 symbol.toNat
        else [symbol] := by
  unfold escape
  split
  case h_8 => rfl
  all_goals exact absurd (by decide) long

/-- The four digits of a control character are read as its number. -/
theorem pieces?_control {code : Nat} (small : code < Nat.pow 16 4) (rest : List Char)
    : pieces? ('\\' :: 'u' :: Numeral.writePadded 16 4 code ++ rest)
      = (pieces? rest).map (.unit code :: ·) := by
  have four : (Numeral.writePadded 16 4 code).length = 4 :=
    Numeral.length_writePadded (by decide) small
  have read : Numeral.digits? 16 (Numeral.writePadded 16 4 code) = some code :=
    Numeral.digits?_writePadded (by decide) (by decide) 4 code
  match digits : Numeral.writePadded 16 4 code, four with
  | [a, b, c, d], _ =>
      rw [digits] at read
      simp only [List.cons_append, List.nil_append, pieces?, read]
      cases pieces? rest <;> rfl

/-- The written form of a character is read as its part of the literal, by the kind of escape. -/
theorem pieces?_escape (symbol : Char) (rest : List Char)
    : pieces? (escape symbol ++ rest) = (pieces? rest).map (pieceOf symbol :: ·) := by
  by_cases short : symbol ∈ shortEscaped
  · obtain ⟨letter, listed, written, meaning⟩ := escape_of_mem symbol short
    have other : letter ≠ 'u' := by
      rintro rfl
      exact absurd listed (by decide)
    have piece : pieceOf symbol = .symbol symbol := if_neg fun both => both.2 short
    rw [written, piece, List.cons_append, List.cons_append, List.nil_append, pieces?]
    · rw [meaning]
      cases pieces? rest <;> rfl
    · intro a b c d later same
      exact absurd same other
  · rw [escape_of_not_mem short]
    by_cases control : symbol < ' '
    · have piece : pieceOf symbol = .unit symbol.toNat := if_pos ⟨control, short⟩
      have small : symbol.toNat < ' '.toNat := control
      rw [if_pos control, piece]
      exact pieces?_control (Nat.lt_trans small (by decide)) rest
    · have piece : pieceOf symbol = .symbol symbol := if_neg fun both => control both.1
      have plain : symbol ≠ '\\' := by
        rintro rfl
        exact short (by decide)
      rw [if_neg control, piece, List.cons_append, List.nil_append, pieces?]
      · rw [if_neg (by simp [plain, control])]
        cases pieces? rest <;> rfl
      · intro a b c d later same
        exact absurd same plain
      · intro letter later same
        exact absurd same plain

/-- The written form of a text is read as the parts of its characters, by induction on them. -/
theorem pieces?_flatMap_escape (symbols : List Char)
    : pieces? (symbols.flatMap escape) = some (symbols.map pieceOf) := by
  induction symbols with
  | nil => rfl
  | cons symbol rest ih =>
      rw [List.flatMap_cons, pieces?_escape, ih, List.map_cons, Option.map_some]

-----------------------------------------------------------------------------------------
-- Parts of a literal
-----------------------------------------------------------------------------------------

/-- A code unit below the surrogates is a character by itself, by what follows it. -/
theorem joinPieces?_unit {code : Nat} (small : code < 0xD800) (rest : List Piece)
    : joinPieces? (.unit code :: rest) = (joinPieces? rest).map (Char.ofNat code :: ·) := by
  have high : isHighSurrogate code = false := by
    simp [isHighSurrogate, Nat.not_le.mpr small]
  have low : isLowSurrogate code = false := by
    simp [isLowSurrogate]
    omega
  cases rest with
  | nil => simp [joinPieces?, high, low]
  | cons piece later =>
      cases piece with
      | symbol value =>
          simp [joinPieces?, high, low]
          rfl
      | unit code => simp [joinPieces?, high, low]

/-- The parts of characters are joined to the characters, by induction on these. -/
theorem joinPieces?_map_pieceOf (symbols : List Char)
    : joinPieces? (symbols.map pieceOf) = some symbols := by
  induction symbols with
  | nil => rfl
  | cons symbol rest ih =>
      rw [List.map_cons]
      by_cases control : symbol < ' ' ∧ symbol ∉ shortEscaped
      · have piece : pieceOf symbol = .unit symbol.toNat := if_pos control
        have small : symbol.toNat < ' '.toNat := control.1
        rw [piece, joinPieces?_unit (Nat.lt_trans small (by decide)), ih, Option.map_some,
          Char.ofNat_toNat]
      · have piece : pieceOf symbol = .symbol symbol := if_neg control
        rw [piece, joinPieces?, ih, Option.map_some]

/-- What stands between the quotes of a written text is read as the text. -/
theorem read?_flatMap_escape (value : String)
    : read? (value.toList.flatMap escape) = some (some value) := by
  rw [read?, pieces?_flatMap_escape, Option.map_some, joinPieces?_map_pieceOf,
    Option.map_some, String.ofList_toList]

/-- What the written form of a literal has between its quotes. -/
def raw : Literal → List Char
  | some value => value.toList.flatMap escape
  | none => ['\\', 'u', 'd', '8', '0', '0']

theorem write_eq (literal : Literal) : write literal = '"' :: (raw literal ++ ['"']) := by
  cases literal <;> rfl

/-- A literal that is written is read back, also where it has no text. -/
theorem read?_raw (literal : Literal) : read? (raw literal) = some literal := by
  cases literal with
  | none => rfl
  | some value => exact read?_flatMap_escape value

end Json.Literal

end GuestLaunch
