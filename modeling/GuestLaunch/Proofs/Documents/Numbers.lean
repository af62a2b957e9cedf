import GuestLaunch.Json.Number

/-!
Numbers that are written in JSON are read back. A number is cut where its digits end: at the
point, at the mark of the exponent, or at the end of the text.
-/

namespace GuestLaunch
open Text

namespace Text.Numeral

/-- Only the number zero starts with the digit zero, by induction along the digits. -/
theorem head?_write {value : Nat} (positive : value ≠ 0)
    : ∃ first rest, write 10 value = first :: rest ∧ first ≠ '0' := by
  fun_induction write 10 value with
  | case1 value final =>
      have every : ∀ value < 10, value ≠ 0 → digitSymbol value ≠ '0' := by decide
      exact ⟨_, [], rfl, every value (by omega) positive⟩
  | case2 value more ih =>
      obtain ⟨first, rest, digits, nonzero⟩ := ih (by omega)
      exact ⟨first, rest ++ [digitSymbol (value % 10)], by rw [digits, List.cons_append],
        nonzero⟩

end Text.Numeral

namespace Json.Number

/-- A text that does not go on with a digit. -/
def EndsDigits (text : List Char) : Prop :=
  ∀ symbol ∈ text.head?, Numeral.isDecimalDigit symbol = false

/-- Digits are split off a text that does not go on with one. -/
theorem spanDigits_append {digits text : List Char}
    (every : ∀ symbol ∈ digits, Numeral.isDecimalDigit symbol = true) (ends : EndsDigits text)
    : spanDigits (digits ++ text) = (digits, text) := by
  have stop : text.takeWhile Numeral.isDecimalDigit = []
      ∧ text.dropWhile Numeral.isDecimalDigit = text := by
    cases text with
    | nil => exact ⟨rfl, rfl⟩
    | cons symbol rest =>
        have other := ends symbol rfl
        simp [other]
  rw [spanDigits, List.takeWhile_append_of_pos every, List.dropWhile_append_of_pos every,
    stop.1, stop.2, List.append_nil]

/-- The digits of a number may stand before a point. -/
theorem isWhole_write (value : Nat) : isWhole (Numeral.write 10 value) = true := by
  by_cases zero : value = 0
  · subst zero
    rw [Numeral.write, if_pos (Or.inr (by decide))]
    rfl
  · obtain ⟨first, rest, digits, nonzero⟩ := Numeral.head?_write zero
    rw [digits, isWhole]
    · simpa using nonzero
    · intro same _
      exact nonzero same

theorem ne_sign_of_digit {symbol : Char} (digit : Numeral.isDecimalDigit symbol = true)
    : symbol ≠ '-' ∧ symbol ≠ '+' := by
  constructor
  all_goals
    rintro rfl
    cases digit

/-- A text that starts with a digit has no sign before it. -/
theorem splitSign_of_digit {first : Char} (digit : Numeral.isDecimalDigit first = true)
    (rest : List Char)
    : Numeral.splitSign (first :: rest) = (false, first :: rest) := by
  obtain ⟨minus, plus⟩ := ne_sign_of_digit digit
  simp [Numeral.splitSign, minus, plus]

/-- A decimal number has no sign before its digits. -/
theorem splitSign_write (value : Nat)
    : Numeral.splitSign (Numeral.write 10 value) = (false, Numeral.write 10 value) := by
  cases digits : Numeral.write 10 value with
  | nil => exact absurd digits (Numeral.write_ne_nil 10 value)
  | cons first rest =>
      have member : first ∈ Numeral.write 10 value := by simp [digits]
      exact splitSign_of_digit (Numeral.isDecimalDigit_of_mem_write member) rest

theorem spanDigits_write {text : List Char} (ends : EndsDigits text) (value : Nat)
    : spanDigits (Numeral.write 10 value ++ text) = (Numeral.write 10 value, text) :=
  spanDigits_append (fun _ => Numeral.isDecimalDigit_of_mem_write) ends

theorem endsDigits_nil : EndsDigits [] := by
  intro symbol member
  cases member

theorem endsDigits_writeExponent (exponent : Option Int)
    : EndsDigits (writeExponent exponent) := by
  intro symbol member
  cases exponent with
  | none => cases member
  | some value =>
      obtain rfl := Option.some.inj member
      rfl

theorem toList_decimal (value : Nat) : (decimal value).toList = Numeral.write 10 value :=
  String.toList_ofList

/-- An exponent that is written is read back, by its sign. -/
theorem readExponent?_write (exponent : Option Int)
    : readExponent? (writeExponent exponent) = some exponent := by
  cases exponent with
  | none => rfl
  | some value =>
      have magnitude : Numeral.digits? 10 (Numeral.write 10 value.natAbs) = some value.natAbs :=
        Numeral.digits?_write (by decide) (by decide) value.natAbs
      have span := spanDigits_write endsDigits_nil value.natAbs
      have unsigned := splitSign_write value.natAbs
      rw [List.append_nil] at span
      cases digits : Numeral.write 10 value.natAbs with
      | nil => exact absurd digits (Numeral.write_ne_nil 10 value.natAbs)
      | cons first rest =>
          rw [digits] at magnitude span unsigned
          by_cases negative : value < 0
          · have text : (signedDecimal value).toList = '-' :: first :: rest := by
              rw [signedDecimal, if_pos negative, String.toList_append, toList_decimal, digits]
              rfl
            have same : -(value.natAbs : Int) = value := by omega
            simp only [writeExponent, text, readExponent?, true_or, if_true, Numeral.splitSign,
              span, magnitude, Option.bind_eq_bind, Option.bind_some, same]
          · have text : (signedDecimal value).toList = first :: rest := by
              rw [signedDecimal, if_neg negative, toList_decimal, digits]
            have same : (value.natAbs : Int) = value := by omega
            simp only [writeExponent, text, readExponent?, true_or, if_true, unsigned, span,
              magnitude, Option.bind_eq_bind, Option.bind_some, Bool.false_eq_true, if_false, same]

/-- Digits behind the point. -/
theorem mapM_digit? {digits : List Nat} (small : ∀ digit ∈ digits, digit < 10)
    : (digits.map Numeral.digitSymbol).mapM (Numeral.digit? 10) = some digits := by
  induction digits with
  | nil => rfl
  | cons digit rest ih =>
      have head := Numeral.digit?_digitSymbol (by decide : 10 ≤ 16) (small digit (by simp))
      have tail := ih fun other member => small other (by simp [member])
      simp [head, tail]

/-- The digits behind a point are read back, up to the exponent. -/
theorem readFraction?_write {fraction : List Nat} (small : ∀ digit ∈ fraction, digit < 10)
    (exponent : Option Int)
    : readFraction? ((if fraction = [] then [] else '.' :: fraction.map Numeral.digitSymbol)
          ++ writeExponent exponent)
      = some (fraction, writeExponent exponent) := by
  cases fraction with
  | nil => cases exponent <;> rfl
  | cons first rest =>
      have every : ∀ symbol ∈ (first :: rest).map Numeral.digitSymbol,
          Numeral.isDecimalDigit symbol = true := by
        intro symbol member
        obtain ⟨digit, listed, rfl⟩ := List.mem_map.mp member
        exact Numeral.isDecimalDigit_digitSymbol (small digit listed)
      have span := spanDigits_append every (endsDigits_writeExponent exponent)
      have values := mapM_digit? small
      rw [List.map_cons] at span values
      rw [if_neg (List.cons_ne_nil _ _), List.cons_append, List.map_cons]
      simp only [readFraction?, span, values, Option.bind_eq_bind, Option.bind_some]

/-- The text behind the digits before the point goes on with no digit. -/
theorem endsDigits_tail (fraction : List Nat) (exponent : Option Int)
    : EndsDigits ((if fraction = [] then [] else '.' :: fraction.map Numeral.digitSymbol)
        ++ writeExponent exponent) := by
  cases fraction with
  | nil => exact endsDigits_writeExponent exponent
  | cons digit rest =>
      intro symbol member
      obtain rfl := Option.some.inj member
      rfl

/-- Every value behind the point is a digit. -/
def WellFormed (number : Number) : Prop := ∀ digit ∈ number.fraction, digit < 10

/-- A number that is written is read back: its sign, its digits before and behind the point, and
its exponent.
-/
theorem read?_write {number : Number} (wellFormed : number.WellFormed)
    : read? number.write = some number := by
  obtain ⟨negative, whole, fraction, exponent⟩ := number
  have span := spanDigits_write (endsDigits_tail fraction exponent) whole
  have value : Numeral.digits? 10 (Numeral.write 10 whole) = some whole :=
    Numeral.digits?_write (by decide) (by decide) whole
  have behind := readFraction?_write wellFormed exponent
  have last := readExponent?_write exponent
  cases negative with
  | true =>
      simp only [write, read?, if_true, List.append_assoc, List.cons_append, List.nil_append,
        span, isWhole_write, value, behind, last, Option.bind_eq_bind, Option.bind_some]
  | false =>
      cases digits : Numeral.write 10 whole with
      | nil => exact absurd digits (Numeral.write_ne_nil 10 whole)
      | cons first rest =>
          have member : first ∈ Numeral.write 10 whole := by simp [digits]
          have plain := (ne_sign_of_digit (Numeral.isDecimalDigit_of_mem_write member)).1
          have fit := isWhole_write whole
          rw [digits] at span value fit
          rw [List.cons_append] at span
          simp only [write, Bool.false_eq_true, if_false, List.append_assoc, List.nil_append,
            List.cons_append, digits]
          rw [read?]
          · simp only [span, fit, if_true, value, behind, last, Option.bind_eq_bind,
              Option.bind_some]
          · intro later same
            exact plain (List.cons.inj same).1

theorem mark_or_digit_of_mem_writeExponent {exponent : Option Int} {symbol : Char}
    (member : symbol ∈ writeExponent exponent)
    : symbol ∈ ['-', '.', 'e'] ∨ Numeral.isDecimalDigit symbol = true := by
  cases exponent with
  | none => cases member
  | some value =>
      rcases List.mem_cons.mp member with rfl | rest
      · exact Or.inl (by decide)
      · rw [signedDecimal] at rest
        split at rest
        · rw [String.toList_append, toList_decimal] at rest
          rcases List.mem_append.mp rest with sign | digits
          · obtain rfl : symbol = '-' := by simpa using sign
            exact Or.inl (by decide)
          · exact Or.inr (Numeral.isDecimalDigit_of_mem_write digits)
        · rw [toList_decimal] at rest
          exact Or.inr (Numeral.isDecimalDigit_of_mem_write rest)

/-- A written number has a sign, digits, a point and the mark of an exponent. -/
theorem mark_or_digit_of_mem_write {number : Number} (wellFormed : number.WellFormed)
    {symbol : Char} (member : symbol ∈ number.write)
    : symbol ∈ ['-', '.', 'e'] ∨ Numeral.isDecimalDigit symbol = true := by
  simp only [write, List.mem_append] at member
  rcases member with ((sign | whole) | fraction) | exponent
  · split at sign
    · obtain rfl : symbol = '-' := by simpa using sign
      exact Or.inl (by decide)
    · cases sign
  · exact Or.inr (Numeral.isDecimalDigit_of_mem_write whole)
  · split at fraction
    · cases fraction
    · rcases List.mem_cons.mp fraction with rfl | digits
      · exact Or.inl (by decide)
      · obtain ⟨digit, listed, rfl⟩ := List.mem_map.mp digits
        exact Or.inr (Numeral.isDecimalDigit_digitSymbol (wellFormed digit listed))
  · exact mark_or_digit_of_mem_writeExponent exponent

theorem write_ne_nil (number : Number) : number.write ≠ [] := by
  simp [write, Numeral.write_ne_nil]

end Json.Number

end GuestLaunch
