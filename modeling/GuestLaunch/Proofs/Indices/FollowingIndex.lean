import GuestLaunch.Bus.IndexRegistry

/-!
The index that follows the recorded ones of a category. It is the number behind the largest of
them, and there is none exactly if the greatest index of all is recorded.
-/

namespace GuestLaunch

-----------------------------------------------------------------------------------------
-- The number behind a list of indices
-----------------------------------------------------------------------------------------

/-- The number behind the largest index of a list, or zero if the list is empty. -/
def numberBehind (indices : List UInt32) : Nat :=
  match indices.max? with
  | none => 0
  | some largest => largest.toNat + 1

theorem toNat_max (first second : UInt32)
    : (max first second).toNat = max first.toNat second.toNat := by
  show (if first ≤ second then second else first).toNat = _
  split
  next below =>
    have bound := UInt32.le_iff_toNat_le.mp below
    omega
  next above =>
    have bound := mt UInt32.le_iff_toNat_le.mpr above
    omega

instance maxAssociative : Std.Associative (max : UInt32 → UInt32 → UInt32) where
  assoc first second third := by
    rw [← UInt32.toNat_inj]
    simp only [toNat_max, Nat.max_assoc]

instance maxEqualsOne : Std.MaxEqOr UInt32 where
  max_eq_or first second := by
    show (if first ≤ second then second else first) = first
      ∨ (if first ≤ second then second else first) = second
    by_cases below : first ≤ second
    · exact Or.inr (if_pos below)
    · exact Or.inl (if_neg below)

theorem numberBehind_cons (index : UInt32) (rest : List UInt32)
    : numberBehind (index :: rest) = max (index.toNat + 1) (numberBehind rest) := by
  rw [numberBehind, numberBehind, List.max?_cons]
  cases rest.max? with
  | none => rfl
  | some largest =>
      simp only [Option.elim_some, toNat_max]
      omega

/-- Every index of a list stands before the number behind the list, by induction on it. -/
theorem lt_numberBehind {indices : List UInt32} {index : UInt32} (member : index ∈ indices)
    : index.toNat < numberBehind indices := by
  induction indices with
  | nil => cases member
  | cons first rest ih =>
      rw [numberBehind_cons]
      rcases List.mem_cons.mp member with rfl | behind
      · omega
      · have later := ih behind
        omega

/-- No list of indices reaches further than all indices do, by induction on it. -/
theorem numberBehind_le_size (indices : List UInt32) : numberBehind indices ≤ UInt32.size := by
  induction indices with
  | nil => exact Nat.zero_le _
  | cons first rest ih =>
      rw [numberBehind_cons]
      exact Nat.max_le.mpr ⟨first.toNat_lt, ih⟩

/-- The number behind a list that is not empty is one more than its largest index. -/
theorem exists_numberBehind_eq {indices : List UInt32} (occupied : indices ≠ [])
    : ∃ largest ∈ indices, numberBehind indices = largest.toNat + 1 := by
  cases found : indices.max? with
  | none => exact absurd (List.max?_eq_none_iff.mp found) occupied
  | some largest => exact ⟨largest, List.max?_mem found, by rw [numberBehind, found]⟩

-----------------------------------------------------------------------------------------
-- What follows the recorded indices
-----------------------------------------------------------------------------------------

namespace IndexRegistry
variable {registry after : IndexRegistry} {category : String} {index : UInt32}

theorem indices_insert
    : (registry.insert category index).indices category
      = index :: registry.indices category := by
  simp [indices, insert]

theorem toNat_lastIndex : lastIndex.toNat = 4294967295 := rfl

/-- The index that follows the recorded ones is the number behind them. -/
theorem toNat_of_following? (h : registry.following? category = some index)
    : index.toNat = numberBehind (registry.indices category) := by
  unfold following? at h
  unfold numberBehind
  cases found : (registry.indices category).max? with
  | none =>
      rw [found] at h
      cases h
      rfl
  | some largest =>
      simp only [found] at h ⊢
      split at h
      · cases h
      · next inside =>
          cases h
          have bound := largest.toNat_lt
          have other : largest.toNat ≠ lastIndex.toNat := fun same =>
            inside (UInt32.toNat_inj.mp same)
          rw [toNat_lastIndex] at other
          rw [UInt32.toNat_add, UInt32.toNat_one, Nat.mod_eq_of_lt (by omega)]

/-- No index follows the recorded ones exactly if the greatest of all is recorded: only behind
that one is no room for another.
-/
theorem following?_eq_none_iff
    : registry.following? category = none
      ↔ registry.contains category lastIndex = true := by
  rw [← mem_indices]
  constructor
  · intro full
    unfold following? at full
    split at full
    · cases full
    · next largest found =>
        split at full
        · next last => exact last ▸ List.max?_mem found
        · cases full
  · intro last
    cases following : registry.following? category with
    | none => rfl
    | some further =>
        have below := lt_numberBehind last
        rw [← toNat_of_following? following, toNat_lastIndex] at below
        have bound := further.toNat_lt
        omega

/-- The number behind a list is no index any more exactly if the list has the greatest one. -/
theorem numberBehind_eq_size_iff {indices : List UInt32}
    : numberBehind indices = UInt32.size ↔ lastIndex ∈ indices := by
  constructor
  · intro full
    have occupied : indices ≠ [] := by
      rintro rfl
      cases full
    obtain ⟨largest, member, behind⟩ := exists_numberBehind_eq occupied
    have same : largest = lastIndex := by
      rw [← UInt32.toNat_inj, toNat_lastIndex]
      have size : UInt32.size = 4294967296 := rfl
      omega
    exact same ▸ member
  · intro last
    have below := lt_numberBehind last
    rw [toNat_lastIndex] at below
    exact Nat.le_antisymm (numberBehind_le_size indices) below

/-- An index that is given out is the number behind the recorded ones, and is recorded. -/
theorem next_ok (h : registry.next category = .ok (index, after))
    : index.toNat = numberBehind (registry.indices category)
      ∧ after = registry.insert category index := by
  unfold next at h
  split at h
  · cases h
  · cases following : registry.following? category with
    | none =>
        rw [following] at h
        cases h
    | some found =>
        rw [following] at h
        cases h
        exact ⟨toNat_of_following? following, rfl⟩

/-- A category with a name runs out of indices exactly if the greatest of all is recorded. -/
theorem next_eq_error_iff {cause : AllocationError} (named : category.isEmpty = false)
    : registry.next category = .error cause
      ↔ registry.contains category lastIndex = true ∧ cause = .noNextIndex category := by
  rw [← following?_eq_none_iff]
  simp only [next, named, Bool.false_eq_true, if_false]
  cases registry.following? category <;> simp [eq_comm]

end IndexRegistry

end GuestLaunch
