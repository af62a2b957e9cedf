import GuestLaunch.Proofs.Addresses.SlotNumbers
import Mathlib.Data.Nat.Digits.Defs

/-!
The texts that write a natural number: digits of a base in positional notation, in either case and
with as many zeros before them as one likes, behind one plus sign or none. These are the texts from
which the number is read.
-/

namespace GuestLaunch.Text.Numeral

/-- A symbol is the digit of a base for a value, in lower or in upper case. -/
def IsDigit (base : Nat) (symbol : Char) (value : Nat) : Prop :=
  value < base ∧ (symbol = value.digitChar ∨ symbol = value.digitChar.toUpper)

instance (base : Nat) (symbol : Char) (value : Nat) : Decidable (IsDigit base symbol value) :=
  inferInstanceAs (Decidable (_ ∧ _))

/-- A text writes a number in positional notation: digits of a base, of which there is at least one,
and the last one has the lowest place.
-/
def WritesDigits (base : Nat) (text : List Char) (value : Nat) : Prop :=
  text ≠ []
  ∧ ∃ places, List.Forall₂ (IsDigit base) text.reverse places ∧ Nat.ofDigits base places = value

/-- A text writes a number with one plus sign before it or none. -/
def WritesNatural (base : Nat) (text : List Char) (value : Nat) : Prop :=
  ∃ digits, (text = digits ∨ text = '+' :: digits) ∧ WritesDigits base digits value

/-- A symbol of a range is a digit if every symbol of the range is, told by its distance from the
least one.
-/
theorem isDigit_of_range {base first : Nat} {least greatest symbol : Char}
    (every
      : ∀ offset ≤ greatest.toNat - least.toNat,
          IsDigit base (Char.ofNat (least.toNat + offset)) (offset + first))
    (range : least ≤ symbol ∧ symbol ≤ greatest)
    : IsDigit base symbol (symbol.toNat - least.toNat + first) := by
  have low : least.toNat ≤ symbol.toNat := UInt32.le_iff_toNat_le.mp (Char.le_def.mp range.1)
  have high : symbol.toNat ≤ greatest.toNat := UInt32.le_iff_toNat_le.mp (Char.le_def.mp range.2)
  have digit := every (symbol.toNat - least.toNat) (by omega)
  rwa [Nat.add_sub_cancel' low, Char.ofNat_toNat] at digit

/-- The symbols that are read as digits are those of base sixteen, by the ranges they are in. -/
theorem anyDigit?_eq_some_iff {symbol : Char} {value : Nat}
    : anyDigit? symbol = some value ↔ IsDigit 16 symbol value := by
  constructor
  · intro read
    unfold anyDigit? at read
    split at read
    next range =>
      obtain rfl := Option.some.inj read
      show IsDigit 16 symbol (symbol.toNat - '0'.toNat + 0)
      exact isDigit_of_range (by decide) range
    split at read
    next range =>
      obtain rfl := Option.some.inj read
      exact isDigit_of_range (by decide) range
    split at read
    next range =>
      obtain rfl := Option.some.inj read
      exact isDigit_of_range (by decide) range
    · cases read
  · rintro ⟨small, rfl | rfl⟩
    · have every : ∀ value < 16, anyDigit? value.digitChar = some value := by decide
      exact every value small
    · have every : ∀ value < 16, anyDigit? value.digitChar.toUpper = some value := by decide
      exact every value small

theorem digit?_eq_some_iff {base : Nat} (small : base ≤ 16) {symbol : Char} {value : Nat}
    : digit? base symbol = some value ↔ IsDigit base symbol value := by
  rw [digit?, Option.filter_eq_some_iff, anyDigit?_eq_some_iff, decide_eq_true_eq]
  constructor
  · rintro ⟨⟨-, written⟩, below⟩
    exact ⟨below, written⟩
  · rintro ⟨below, written⟩
    exact ⟨⟨below.trans_le small, written⟩, below⟩

/-- Digits are read as the number that they write, by induction on them from the lowest place. -/
theorem digits?_reverse_eq_some_iff {base : Nat} (small : base ≤ 16) {symbols : List Char}
    {value : Nat}
    : digits? base symbols.reverse = some value
      ↔ ∃ places, List.Forall₂ (IsDigit base) symbols places
          ∧ Nat.ofDigits base places = value := by
  induction symbols generalizing value with
  | nil =>
      constructor
      · intro read
        exact ⟨[], .nil, Option.some.inj read⟩
      · rintro ⟨_, ⟨⟩, rfl⟩
        rfl
  | cons symbol rest ih =>
      simp only [List.reverse_cons, digits?_concat, Option.bind_eq_some_iff, Option.map_eq_some_iff,
        ih, digit?_eq_some_iff small]
      constructor
      · rintro ⟨_, ⟨places, digits, rfl⟩, place, digit, rfl⟩
        refine ⟨place :: places, .cons digit digits, ?_⟩
        rw [Nat.ofDigits_cons, Nat.mul_comm, Nat.add_comm]
      · rintro ⟨_, writes, rfl⟩
        cases writes with
        | cons digit digits =>
            refine ⟨_, ⟨_, digits, rfl⟩, _, digit, ?_⟩
            rw [Nat.ofDigits_cons, Nat.mul_comm, Nat.add_comm]

theorem digits?_eq_some_iff {base : Nat} (small : base ≤ 16) {text : List Char} {value : Nat}
    (some : text ≠ [])
    : digits? base text = Option.some value ↔ WritesDigits base text value := by
  rw [← text.reverse_reverse, digits?_reverse_eq_some_iff small, text.reverse_reverse, WritesDigits]
  simp [some]

theorem eq_dropPlus_or (text : List Char) : text = dropPlus text ∨ text = '+' :: dropPlus text := by
  unfold dropPlus
  split
  · exact Or.inr rfl
  · exact Or.inl rfl

theorem dropPlus_of_not_mem {text : List Char} (unsigned : '+' ∉ text) : dropPlus text = text := by
  unfold dropPlus
  split
  · exact absurd List.mem_cons_self unsigned
  · rfl

theorem WritesDigits.digits? {base value : Nat} {text : List Char} (small : base ≤ 16)
    (writes : WritesDigits base text value)
    : digits? base text = some value :=
  (digits?_eq_some_iff small writes.1).mpr writes

/-- A plus sign is no digit, so there is one way to take it off a number. -/
theorem writesNatural_iff {base value : Nat} {text : List Char} (small : base ≤ 16)
    : WritesNatural base text value ↔ WritesDigits base (dropPlus text) value := by
  constructor
  · rintro ⟨digits, signed, writes⟩
    have unsigned : '+' ∉ digits := by
      intro member
      exact anyDigit?_of_digits? (writes.digits? small) '+' member (by decide)
    rcases signed with rfl | rfl
    · rwa [dropPlus_of_not_mem unsigned]
    · exact writes
  · intro writes
    exact ⟨dropPlus text, eq_dropPlus_or text, writes⟩

/-- A natural number below a bound is read from a text that writes it, and from no other. -/
theorem natural?_eq_some_iff {base bound value : Nat} (small : base ≤ 16) {text : List Char}
    : natural? base bound text = some value ↔ WritesNatural base text value ∧ value < bound := by
  rw [writesNatural_iff small, natural?]
  cases digits : dropPlus text with
  | nil =>
      constructor
      · intro read
        cases read
      · rintro ⟨⟨some, -⟩, -⟩
        exact absurd rfl some
  | cons first rest =>
      rw [← digits?_eq_some_iff small (List.cons_ne_nil first rest)]
      simp [Option.filter_eq_some_iff]

end GuestLaunch.Text.Numeral
