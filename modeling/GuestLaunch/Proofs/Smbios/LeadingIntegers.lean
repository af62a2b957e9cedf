import GuestLaunch.Proofs.Documents.Numbers
import Mathlib.Data.List.Induction
import Mathlib.Data.List.TakeWhile
import Mathlib.Data.Nat.Digits.Defs

/-!
The integer that a text starts with. What the reader of leading integers takes off a text is the
written form of an integer, as long as the digits go on, and its value is the number that the digits
write.
-/

namespace GuestLaunch
open Json.Number (EndsDigits spanDigits)

namespace Text.Numeral

-----------------------------------------------------------------------------------------
-- The written form of an integer
-----------------------------------------------------------------------------------------

/-- A text that consists of decimal digits, of at least one. -/
structure IsDigitRun (text : List Char) : Prop where
  nonempty : text ≠ []
  digits : ∀ symbol ∈ text, isDecimalDigit symbol = true

/-- The number that a run of decimal digits writes, in positional notation. -/
def magnitude (digits : List Char) : Nat :=
  Nat.ofDigits 10 (digits.reverse.map fun digit => digit.toNat - '0'.toNat)

/-- A text writes an integer: a run of digits behind one sign or none. -/
inductive WritesInteger : List Char → Int → Prop
  | unsigned {digits : List Char} (run : IsDigitRun digits)
    : WritesInteger digits (magnitude digits)
  | plus {digits : List Char} (run : IsDigitRun digits)
    : WritesInteger ('+' :: digits) (magnitude digits)
  | minus {digits : List Char} (run : IsDigitRun digits)
    : WritesInteger ('-' :: digits) (-(magnitude digits : Int))

/-- An integer of 64 bits, in two's complement. -/
def FitsWord (value : Int) : Prop :=
  -9223372036854775808 ≤ value ∧ value ≤ 9223372036854775807

/-- A text that writes an integer of 64 bits, and nothing else. -/
def IsWordInteger (text : List Char) : Prop := ∃ value, WritesInteger text value ∧ FitsWord value

-----------------------------------------------------------------------------------------
-- Runs of digits
-----------------------------------------------------------------------------------------

theorem fitsWord_iff (value : Int)
    : FitsWord value ↔ int64Range.1 ≤ value ∧ value ≤ int64Range.2 := by
  have range : int64Range = (-9223372036854775808, 9223372036854775807) := by decide
  rw [FitsWord, range]

theorem digit?_of_isDecimalDigit {symbol : Char} (digit : isDecimalDigit symbol = true)
    : digit? 10 symbol = some (symbol.toNat - '0'.toNat) := by
  obtain ⟨least, greatest⟩ : '0' ≤ symbol ∧ symbol ≤ '9' := by simpa [isDecimalDigit] using digit
  have bound : symbol.toNat ≤ '9'.toNat := UInt32.le_iff_toNat_le.mp (Char.le_def.mp greatest)
  have small : symbol.toNat - '0'.toNat < 10 := by
    have nine : '9'.toNat = '0'.toNat + 9 := by decide
    omega
  rw [digit?, anyDigit?, if_pos ⟨least, greatest⟩]
  exact Option.filter_some_pos (decide_eq_true small)

theorem magnitude_concat (digits : List Char) (symbol : Char)
    : magnitude (digits ++ [symbol])
      = magnitude digits * 10 + (symbol.toNat - '0'.toNat) := by
  rw [magnitude, List.reverse_concat, List.map_cons, Nat.ofDigits_cons, magnitude]
  omega

/-- Digits are read as the number that they write, by induction along them from the least one. -/
theorem digits?_eq_magnitude {digits : List Char}
    (every : ∀ symbol ∈ digits, isDecimalDigit symbol = true)
    : digits? 10 digits = some (magnitude digits) := by
  induction digits using List.reverseRecOn with
  | nil => rfl
  | append_singleton digits last ih =>
      have before := ih fun symbol member => every symbol (by simp [member])
      rw [digits?_concat, before, Option.bind_some,
        digit?_of_isDecimalDigit (every last (by simp)), Option.map_some, magnitude_concat]

/-- What follows the longest run of digits does not go on with a digit. -/
theorem endsDigits_dropWhile (text : List Char) : EndsDigits (text.dropWhile isDecimalDigit) := by
  intro symbol member
  have stop := List.head?_dropWhile_not isDecimalDigit text
  rw [Option.mem_def.mp member] at stop
  exact stop

/-- A text is cut in one way into digits and a rest that does not go on with one. -/
theorem spanDigits_eq_iff {text digits rest : List Char}
    : spanDigits text = (digits, rest)
      ↔ text = digits ++ rest ∧ (∀ symbol ∈ digits, isDecimalDigit symbol = true)
        ∧ EndsDigits rest := by
  constructor
  · intro span
    obtain ⟨rfl, rfl⟩ := Prod.mk.inj span
    exact ⟨List.takeWhile_append_dropWhile.symm, fun _ => List.mem_takeWhile_imp,
      endsDigits_dropWhile text⟩
  · rintro ⟨rfl, every, ends⟩
    exact Json.Number.spanDigits_append every ends

-----------------------------------------------------------------------------------------
-- The reader
-----------------------------------------------------------------------------------------

/-- Behind the sign, the reader takes the longest run of digits, if it has a value of 64 bits. -/
theorem leadingInteger?_eq_some_iff_of_splitSign {text unsigned rest : List Char}
    {negative : Bool} {value : Int} (split : splitSign text = (negative, unsigned))
    : leadingInteger? text = some (value, rest)
      ↔ ∃ digits,
          unsigned = digits ++ rest
          ∧ IsDigitRun digits
          ∧ value = (if negative then -(magnitude digits : Int) else magnitude digits)
          ∧ FitsWord value
          ∧ EndsDigits rest := by
  constructor
  · intro read
    cases span : spanDigits unsigned with
    | mk digits behind =>
        obtain ⟨cut, every, ends⟩ := spanDigits_eq_iff.mp span
        obtain ⟨taken, dropped⟩ := Prod.mk.inj span
        simp only [leadingInteger?, split, taken, dropped] at read
        cases digits with
        | nil => cases read
        | cons first others =>
            simp only [digits?_eq_magnitude every, Option.bind_eq_bind, Option.bind_some,
              Option.ite_none_right_eq_some, Option.some.injEq, Prod.mk.injEq,
              ← fitsWord_iff] at read
            obtain ⟨fits, rfl, rfl⟩ := read
            exact ⟨first :: others, cut, ⟨List.cons_ne_nil _ _, every⟩, rfl, fits, ends⟩
  · rintro ⟨digits, cut, run, rfl, fits, ends⟩
    obtain ⟨taken, dropped⟩ := Prod.mk.inj (spanDigits_eq_iff.mpr ⟨cut, run.digits, ends⟩)
    rw [fitsWord_iff] at fits
    simp only [leadingInteger?, split, taken, dropped]
    cases digits with
    | nil => exact absurd rfl run.nonempty
    | cons first others =>
        simp only [digits?_eq_magnitude run.digits, Option.bind_eq_bind, Option.bind_some,
          if_pos fits]

theorem IsDigitRun.splitSign_append {digits : List Char} (run : IsDigitRun digits)
    (rest : List Char)
    : splitSign (digits ++ rest) = (false, digits ++ rest) := by
  cases digits with
  | nil => exact absurd rfl run.nonempty
  | cons first others =>
      exact Json.Number.splitSign_of_digit (run.digits first List.mem_cons_self) (others ++ rest)

/-- The reader takes off a text what writes an integer of 64 bits and does not go on with a digit,
by cases of the sign.
-/
theorem leadingInteger?_eq_some_iff {text rest : List Char} {value : Int}
    : leadingInteger? text = some (value, rest)
      ↔ ∃ written,
          text = written ++ rest
          ∧ WritesInteger written value
          ∧ FitsWord value
          ∧ EndsDigits rest := by
  constructor
  · intro read
    fun_cases splitSign text with
    | case1 unsigned =>
        obtain ⟨digits, rfl, run, rfl, fits, ends⟩ :=
          (leadingInteger?_eq_some_iff_of_splitSign rfl).mp read
        exact ⟨'-' :: digits, rfl, .minus run, fits, ends⟩
    | case2 unsigned =>
        obtain ⟨digits, rfl, run, rfl, fits, ends⟩ :=
          (leadingInteger?_eq_some_iff_of_splitSign rfl).mp read
        exact ⟨'+' :: digits, rfl, .plus run, fits, ends⟩
    | case3 plus minus =>
        have split : splitSign text = (false, text) := by simp [splitSign]
        obtain ⟨digits, rfl, run, rfl, fits, ends⟩ :=
          (leadingInteger?_eq_some_iff_of_splitSign split).mp read
        exact ⟨digits, rfl, .unsigned run, fits, ends⟩
  · rintro ⟨written, rfl, writes, fits, ends⟩
    cases writes with
    | unsigned run =>
        exact (leadingInteger?_eq_some_iff_of_splitSign (run.splitSign_append rest)).mpr
          ⟨_, rfl, run, rfl, fits, ends⟩
    | plus run =>
        exact (leadingInteger?_eq_some_iff_of_splitSign rfl).mpr ⟨_, rfl, run, rfl, fits, ends⟩
    | minus run =>
        exact (leadingInteger?_eq_some_iff_of_splitSign rfl).mpr ⟨_, rfl, run, rfl, fits, ends⟩

end Text.Numeral

end GuestLaunch
