import GuestLaunch.Proofs.Addresses.SlotNumbers

/-!
Addresses of the functions of a slot. A function that is written behind an address changes nothing
about the slot that the address names, and different functions have different addresses, because
written numbers are read back.
-/

namespace GuestLaunch
open Text

namespace Text

/-- Different numbers have different digits, because the digits are read as the number. -/
theorem Numeral.write_injective {base : Nat} (large : 2 ≤ base) (small : base ≤ 16)
    : Function.Injective (Numeral.write base) := by
  intro left right same
  have read := digits?_write large small left
  rw [same, digits?_write large small right] at read
  exact (Option.some.inj read).symm

theorem decimal_injective : Function.Injective decimal := fun _ _ same =>
  Numeral.write_injective (by decide) (by decide) (String.ofList_injective same)

theorem hexadecimal_injective : Function.Injective hexadecimal := fun _ _ same =>
  Numeral.write_injective (by decide) (by decide) (String.ofList_injective same)

end Text

namespace BusAddress
variable {mark : Char} {before behind : List Char}

theorem afterLast_append (absent : mark ∉ behind)
    : afterLast mark (before ++ behind) = afterLast mark before ++ behind := by
  have passes : ∀ symbol ∈ behind.reverse, (symbol != mark) = true := by
    intro symbol member
    refine bne_iff_ne.mpr ?_
    rintro rfl
    exact absent (List.mem_reverse.mp member)
  rw [afterLast, afterLast, List.reverse_append, List.takeWhile_append_of_pos passes,
    List.reverse_append, List.reverse_reverse]

/-- What stands behind a mark is not before the first one, by induction on what stands before
it.
-/
theorem beforeFirst_append_mark
    : beforeFirst mark (before ++ mark :: behind) = beforeFirst mark before := by
  induction before with
  | nil => simp [beforeFirst]
  | cons symbol rest ih =>
      rw [beforeFirst, beforeFirst] at ih
      rw [beforeFirst, beforeFirst, List.cons_append, List.takeWhile_cons, List.takeWhile_cons, ih]

/-- A function behind an address does not change the slot that the address names. -/
theorem slotBeforeFunction?_append {function : String} (pathless : '/' ∉ function.toList)
    (address : String)
    : slotBeforeFunction? (address ++ "." ++ function) = slotBeforeFunction? address := by
  have symbols : (address ++ "." ++ function).toList
      = address.toList ++ '.' :: function.toList := by
    simp
  have absent : '/' ∉ '.' :: function.toList := by simp [pathless]
  rw [slotBeforeFunction?_eq, slotBeforeFunction?_eq, symbols, afterLast_append absent,
    beforeFirst_append_mark]

end BusAddress

end GuestLaunch
