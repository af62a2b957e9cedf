import GuestLaunch.Bus.Address
import Mathlib.Data.List.Induction
import Mathlib.Data.List.TakeWhile

/-!
The number that an address names. A number has only few kinds of symbols, so that an address with
a function is no number as a whole; without a function, both ways to read an address agree.
-/

namespace GuestLaunch
open Text

-----------------------------------------------------------------------------------------
-- The symbols of a number
-----------------------------------------------------------------------------------------

namespace Text

theorem mem_dropWhile_iff {α : Type} {test : α → Bool} {item : α} (kept : test item = false)
    (items : List α)
    : item ∈ items.dropWhile test ↔ item ∈ items := by
  constructor
  · intro member
    exact (List.dropWhile_sublist test).subset member
  · intro member
    rw [← List.takeWhile_append_dropWhile (p := test) (l := items)] at member
    rcases List.mem_append.mp member with dropped | rest
    · have passed := List.mem_takeWhile_imp dropped
      rw [kept] at passed
      cases passed
    · exact rest

/-- Trimming a text removes no symbol other than blanks from it. -/
theorem mem_trim {symbol : Char} (solid : isBlank symbol = false) (text : List Char)
    : symbol ∈ trim text ↔ symbol ∈ text := by
  rw [trim, List.mem_reverse, mem_dropWhile_iff solid, List.mem_reverse,
    mem_dropWhile_iff solid]

end Text

namespace Text.Numeral

/-- Every symbol of a run of digits is a digit, by induction from its end. -/
theorem anyDigit?_of_digits? {base value : Nat} {symbols : List Char}
    (read : digits? base symbols = some value)
    : ∀ symbol ∈ symbols, anyDigit? symbol ≠ none := by
  induction symbols using List.reverseRecOn generalizing value with
  | nil =>
      intro symbol member
      cases member
  | append_singleton before last ih =>
      rw [digits?_concat] at read
      obtain ⟨total, readBefore, rest⟩ := Option.bind_eq_some_iff.mp read
      obtain ⟨digit, readLast, _⟩ := Option.map_eq_some_iff.mp rest
      intro symbol member
      rcases List.mem_append.mp member with earlier | final
      · exact ih readBefore symbol earlier
      · cases List.mem_singleton.mp final
        obtain ⟨present, _⟩ := Option.filter_eq_some_iff.mp readLast
        rw [present]
        exact Option.some_ne_none digit

/-- A number is a sign and digits. -/
theorem symbol_of_natural? {base bound value : Nat} {text : List Char}
    (read : natural? base bound text = some value)
    : ∀ symbol ∈ text, symbol = '+' ∨ anyDigit? symbol ≠ none := by
  have digits : digits? base (dropPlus text) = some value := by
    unfold natural? at read
    split at read
    · cases read
    · exact (Option.filter_eq_some_iff.mp read).1
  intro symbol member
  have split : symbol = '+' ∨ symbol ∈ dropPlus text := by
    unfold dropPlus
    split
    · exact List.mem_cons.mp member
    · exact Or.inr member
  exact split.imp_right (anyDigit?_of_digits? digits symbol)

end Text.Numeral

namespace BusAddress

/-- A number is a mark, a sign and digits, by the mark that tells its base. -/
theorem symbol_of_number? {text : List Char} {value : Nat} (read : number? text = some value)
    : ∀ symbol ∈ text, symbol ∈ ['0', 'x', 'X', '+'] ∨ Numeral.anyDigit? symbol ≠ none := by
  have behind {base : Nat} {digits : List Char}
      (read : Numeral.natural? base UInt64.size digits = some value)
      : ∀ symbol ∈ digits,
          symbol ∈ ['0', 'x', 'X', '+'] ∨ Numeral.anyDigit? symbol ≠ none := by
    intro symbol member
    refine (Numeral.symbol_of_natural? read symbol member).imp_left ?_
    rintro rfl
    decide
  unfold number? at read
  split at read
  case h_1 | h_2 =>
    intro symbol member
    rcases List.mem_cons.mp member with rfl | member
    · exact Or.inl (by decide)
    · rcases List.mem_cons.mp member with rfl | member
      · exact Or.inl (by decide)
      · exact behind read symbol member
  case h_3 => exact behind read

theorem number?_lt {text : List Char} {value : Nat} (read : number? text = some value)
    : value < UInt64.size := by
  have below {base : Nat} {digits : List Char}
      (read : Numeral.natural? base UInt64.size digits = some value)
      : value < UInt64.size := by
    unfold Numeral.natural? at read
    split at read
    · cases read
    · simpa using (Option.filter_eq_some_iff.mp read).2
  unfold number? at read
  split at read <;> exact below read

-----------------------------------------------------------------------------------------
-- Addresses with and without a function
-----------------------------------------------------------------------------------------

/-- Whether a function follows the slot of an address, behind its bus path. -/
def hasFunction (address : String) : Bool := (afterLast '/' address.toList).contains '.'

/-- A text without a mark is what follows the last one. -/
theorem afterLast_of_not_mem {mark : Char} {text : List Char} (absent : mark ∉ text)
    : afterLast mark text = text := by
  have whole : text.reverse.takeWhile (· != mark) = text.reverse := by
    rw [List.takeWhile_eq_self_iff]
    intro symbol member
    refine bne_iff_ne.mpr ?_
    rintro rfl
    exact absent (List.mem_reverse.mp member)
  rw [afterLast, whole, List.reverse_reverse]

theorem not_mem_afterLast (mark : Char) (text : List Char) : mark ∉ afterLast mark text := by
  intro member
  have other := List.mem_takeWhile_imp (List.mem_reverse.mp member)
  simp at other

theorem beforeFirst_of_not_mem {mark : Char} {text : List Char} (absent : mark ∉ text)
    : beforeFirst mark text = text := by
  rw [beforeFirst, List.takeWhile_eq_self_iff]
  intro symbol member
  refine bne_iff_ne.mpr ?_
  rintro rfl
  exact absent member

/-- The slot before a function is read from the text between the bus path and the function. -/
theorem slotBeforeFunction?_eq (address : String)
    : slotBeforeFunction? address
      = number? (trim (beforeFirst '.' (afterLast '/' address.toList))) := by
  have pathless : '/' ∉ beforeFirst '.' (afterLast '/' address.toList) := by
    intro member
    exact not_mem_afterLast '/' address.toList ((List.takeWhile_sublist _).subset member)
  rw [slotBeforeFunction?, slot?, String.toList_ofList, afterLast_of_not_mem pathless]

/-- An address that is one number names it with either reading, and one with a function is no number
as a whole, because the dot is no symbol of a number.
-/
theorem slot?_eq (address : String)
    : slot? address = if hasFunction address then none else slotBeforeFunction? address := by
  cases function : hasFunction address with
  | true =>
      have dotted : '.' ∈ trim (afterLast '/' address.toList) :=
        (mem_trim (by decide) _).mpr (List.contains_iff_mem.mp function)
      cases read : slot? address with
      | none => rfl
      | some slot =>
          have symbol := symbol_of_number? read '.' dotted
          exact absurd symbol (by decide)
  | false =>
      have undotted : '.' ∉ afterLast '/' address.toList := by
        intro member
        rw [hasFunction, List.contains_iff_mem.mpr member] at function
        cases function
      rw [slotBeforeFunction?_eq, beforeFirst_of_not_mem undotted]
      rfl

end BusAddress

end GuestLaunch
