import GuestLaunch.Proofs.Indices.FollowingIndex
import GuestLaunch.Proofs.Outcome.Classification

/-!
The ledger of boot indices. The next index stands behind all recorded ones, so indices that are
given out after the reservations count upwards from behind the largest of these.
-/

namespace GuestLaunch

-----------------------------------------------------------------------------------------
-- What a run gives out
-----------------------------------------------------------------------------------------

/-- The number of the next boot index that a run gives out. -/
def RunState.nextIndex (state : RunState) : Nat :=
  numberBehind (state.indices.indices IndexRegistry.bootCategory)

/-- The boot indices among grants. -/
def grantedIndices (grants : List Grant) : List UInt32 := grants.filterMap Grant.index?

theorem grantedIndices_append (first second : List Grant)
    : grantedIndices (first ++ second) = grantedIndices first ++ grantedIndices second :=
  List.filterMap_append

theorem indexIn?_eq_head? (grants : List Grant)
    : indexIn? grants = (grantedIndices grants).head? :=
  List.head?_filterMap.symm

/-- A granted request that is no reservation gives out the next boot index or none, by what
the run answers.
-/
theorem Request.index_of_answer {request : Request} {state next : RunState} {grant : Grant}
    (h : request.answer state = .ok (grant, next)) (unreserved : Config.Unreserved request)
    : (request = .number
        ∧ ∃ index,
            grant = .index index
            ∧ index.toNat = state.nextIndex
            ∧ next.nextIndex = state.nextIndex + 1)
      ∨ (request ≠ .number ∧ grant.index? = none ∧ next.nextIndex = state.nextIndex) := by
  cases answered_of_ok h with
  | @number index indices numbered =>
      obtain ⟨same, rfl⟩ := IndexRegistry.next_ok numbered
      refine Or.inl ⟨rfl, index, rfl, same, ?_⟩
      rw [RunState.nextIndex, IndexRegistry.indices_insert, numberBehind_cons]
      rw [RunState.nextIndex]
      omega
  | reserve => exact absurd rfl (unreserved _)
  | claim | place | inherit => exact Or.inr ⟨by simp, rfl, rfl⟩

/-- The next boot index is refused exactly if the greatest one is recorded. -/
theorem Request.number_error_iff {state : RunState} {cause : AllocationError}
    : Request.number.answer state = .error cause
      ↔ IndexRegistry.lastIndex ∈ state.indices.indices IndexRegistry.bootCategory
        ∧ cause = .noNextIndex IndexRegistry.bootCategory := by
  rw [IndexRegistry.mem_indices,
    ← IndexRegistry.next_eq_error_iff IndexRegistry.bootCategory_isEmpty, answer]
  cases state.indices.next IndexRegistry.bootCategory <;> simp [Except.map]

namespace Granted
variable {state final : RunState} {requests : List Request} {grants : List Grant}

/-- A run without reservations gives out the next boot indices, one for each request of a
number, by induction on the run.
-/
theorem indices_eq (h : Granted state requests grants final)
    (unreserved : ∀ request ∈ requests, Config.Unreserved request)
    : (grantedIndices grants).map UInt32.toNat
        = List.range' state.nextIndex (requests.count .number)
      ∧ final.nextIndex = state.nextIndex + requests.count .number := by
  induction h with
  | nil => exact ⟨rfl, rfl⟩
  | @cons state next final request rest grant grants first _ ih =>
      obtain ⟨numbers, behind⟩ :=
        ih fun other member => unreserved other (List.mem_cons_of_mem _ member)
      rcases Request.index_of_answer first (unreserved request List.mem_cons_self) with
        ⟨rfl, index, rfl, same, shifted⟩ | ⟨other, none, same⟩
      · rw [shifted] at numbers behind
        rw [List.count_cons_self]
        constructor
        · have head : (Grant.index index).index? = some index := rfl
          rw [grantedIndices, List.filterMap_cons_some head, List.map_cons, List.range'_succ,
            ← numbers, same, grantedIndices]
        · omega
      · rw [same] at numbers behind
        rw [List.count_cons_of_ne other]
        constructor
        · rw [grantedIndices, List.filterMap_cons_none none]
          exact numbers
        · exact behind

/-- A run without reservations gives out one boot index for each request of a number. -/
theorem length_grantedIndices (h : Granted state requests grants final)
    (unreserved : ∀ request ∈ requests, Config.Unreserved request)
    : (grantedIndices grants).length = requests.count .number := by
  have numbers := congrArg List.length (h.indices_eq unreserved).1
  rwa [List.length_map, List.length_range'] at numbers

/-- After reservations the next boot index stands behind the reserved ones and those before, by
induction on the reserved indices.
-/
theorem nextIndex_reserves {indices : List UInt32}
    (h : Granted state (indices.map Request.reserve) grants final)
    : final.nextIndex = max (numberBehind indices) state.nextIndex := by
  induction indices generalizing state grants with
  | nil =>
      cases h
      exact (Nat.zero_max _).symm
  | cons own rest ih =>
      cases h with
      | cons first later =>
          cases Request.answered_of_ok first with
          | reserve fresh =>
              rw [ih later, numberBehind_cons, RunState.nextIndex,
                IndexRegistry.indices_insert, numberBehind_cons, RunState.nextIndex]
              omega

end Granted

end GuestLaunch
