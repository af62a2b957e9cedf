import GuestLaunch.Proofs.Resources.Answers

/-!
The ledger of the root bus. What is occupied after a run of requests is what was so before it,
what the run has claimed and what it has granted, and a slot is granted at most once.
-/

namespace GuestLaunch

namespace Request

def claimed? : Request → Option Nat
  | claim slot => some slot
  | _ => none

def placed? : Request → Option String
  | place address => some address
  | _ => none

/-- After a request, a slot is occupied if it was so before, or is claimed or granted now, by
what the run answers.
-/
theorem isUsed_of_answer {request : Request} {state next : RunState} {grant : Grant}
    (h : request.answer state = .ok (grant, next)) (slot : Nat)
    : next.bus.isUsed slot = true
      ↔ state.bus.isUsed slot = true ∨ request.claimed? = some slot
        ∨ grant.slot? = some slot := by
  cases answered_of_ok h with
  | claim inside =>
      rw [RootBus.isUsed_occupy _ _ _ inside]
      simp [claimed?, or_comm]
  | place allocated =>
      obtain ⟨_, ⟨_, inside⟩, rfl⟩ := RootBus.allocate_ok allocated
      rw [RootBus.isUsed_occupy _ _ _ inside]
      simp [claimed?, or_comm]
  | reserve | number | inherit => simp [claimed?]

theorem free_of_answer {request : Request} {state next : RunState} {grant : Grant}
    (h : request.answer state = .ok (grant, next)) {slot : Nat}
    (given : grant.slot? = some slot)
    : state.bus.isUsed slot = false := by
  cases answered_of_ok h with
  | place allocated =>
      obtain rfl := Option.some.inj given
      exact (RootBus.allocate_ok allocated).1
  | claim | reserve | number | inherit => cases given

end Request

def claimedSlots (requests : List Request) : List Nat := requests.filterMap Request.claimed?

def placedAddresses (requests : List Request) : List String :=
  requests.filterMap Request.placed?

def grantedSlots (grants : List Grant) : List Nat := grants.filterMap Grant.slot?

namespace Granted
variable {state final : RunState} {requests : List Request} {grants : List Grant}

/-- The slots that are occupied after a run are those occupied before, those claimed and those
granted, by induction on the run.
-/
theorem isUsed_iff (h : Granted state requests grants final) (slot : Nat)
    : final.bus.isUsed slot = true
      ↔ state.bus.isUsed slot = true ∨ slot ∈ claimedSlots requests
        ∨ slot ∈ grantedSlots grants := by
  induction h with
  | nil => simp [claimedSlots, grantedSlots]
  | @cons state next final request rest grant grants first later ih =>
      have step := Request.isUsed_of_answer first slot
      have claimed : slot ∈ claimedSlots (request :: rest)
          ↔ request.claimed? = some slot ∨ slot ∈ claimedSlots rest := by
        simp [claimedSlots]
      have granted : slot ∈ grantedSlots (grant :: grants)
          ↔ grant.slot? = some slot ∨ slot ∈ grantedSlots grants := by
        simp [grantedSlots]
      rw [ih, step, claimed, granted]
      grind

/-- The slots that are granted in a run were free before it, by induction on the run: what is
occupied stays so.
-/
theorem slots_fresh (h : Granted state requests grants final) {slot : Nat}
    (given : slot ∈ grantedSlots grants)
    : state.bus.isUsed slot = false := by
  induction h with
  | nil => simp [grantedSlots] at given
  | @cons state next final request rest grant grants first later ih =>
      obtain own | behind : grant.slot? = some slot ∨ slot ∈ grantedSlots grants := by
        simpa [grantedSlots] using given
      · exact Request.free_of_answer first own
      · have free := ih behind
        cases used : state.bus.isUsed slot with
        | false => rfl
        | true =>
            have kept := (Request.isUsed_of_answer first slot).mpr (Or.inl used)
            exact kept.symm.trans free

/-- The slots that are granted in a run are pairwise distinct, by induction on the run: a slot
is occupied once it has been granted, so it is not free for a later request.
-/
theorem slots_nodup (h : Granted state requests grants final)
    : (grantedSlots grants).Nodup := by
  induction h with
  | nil => exact List.nodup_nil
  | @cons state next final request rest grant grants first later ih =>
      cases given : grant.slot? with
      | none =>
          rw [grantedSlots, List.filterMap_cons_none given]
          exact ih
      | some slot =>
          rw [grantedSlots, List.filterMap_cons_some given]
          refine List.nodup_cons.mpr ⟨?_, ih⟩
          intro again
          have used := (Request.isUsed_of_answer first slot).mpr (Or.inr (Or.inr given))
          exact absurd (later.slots_fresh again) (by simp [used])

/-- A run without requests for slots grants none, by induction on the run. -/
theorem slots_eq_nil (h : Granted state requests grants final)
    (unplaced : placedAddresses requests = [])
    : grantedSlots grants = [] := by
  induction h with
  | nil => rfl
  | cons first _ ih =>
      cases Request.answered_of_ok first with
      | place allocated => cases unplaced
      | claim | reserve | number | inherit => exact ih unplaced

/-- A run grants one slot for each request of one, by induction on the run. -/
theorem length_grantedSlots (h : Granted state requests grants final)
    : (grantedSlots grants).length = (placedAddresses requests).length := by
  induction h with
  | nil => rfl
  | cons first _ ih =>
      cases Request.answered_of_ok first with
      | place allocated => exact congrArg (· + 1) ih
      | claim | reserve | number | inherit => exact ih

/-- A run that neither claims a slot nor asks for one leaves the bus as it is, by induction on
the run.
-/
theorem bus_eq (h : Granted state requests grants final)
    (unclaimed : claimedSlots requests = []) (unplaced : placedAddresses requests = [])
    : final.bus = state.bus := by
  induction h with
  | nil => rfl
  | cons first _ ih =>
      cases Request.answered_of_ok first with
      | claim inside => cases unclaimed
      | place allocated => cases unplaced
      | reserve | number | inherit => exact ih unclaimed unplaced

/-- A run without claims that asks for one slot is one allocation on the bus, and grants the
slot that this gives, by induction on the run: before and after the request for the slot, the
bus stays as it is.
-/
theorem slots_eq_singleton (h : Granted state requests grants final) {address : String}
    (unclaimed : claimedSlots requests = [])
    (placed : placedAddresses requests = [address])
    : ∃ slot,
        state.bus.allocate address = .ok (slot, final.bus) ∧ grantedSlots grants = [slot] := by
  induction h with
  | nil => cases placed
  | cons first later ih =>
      cases Request.answered_of_ok first with
      | claim inside => cases unclaimed
      | @place own slot bus allocated =>
          obtain ⟨rfl, unplaced⟩ := List.cons.inj placed
          have kept := later.bus_eq unclaimed unplaced
          refine ⟨slot, kept ▸ allocated, ?_⟩
          exact congrArg (slot :: ·) (later.slots_eq_nil unplaced)
      | reserve | number | inherit => exact ih unclaimed placed

/-- A run that grants a slot changes the occupied slots. -/
theorem usedSlots_ne (h : Granted state requests grants final)
    (placed : placedAddresses requests ≠ [])
    : final.bus.usedSlots ≠ state.bus.usedSlots := by
  have some : grantedSlots grants ≠ [] := by
    intro none
    have length := h.length_grantedSlots
    rw [none] at length
    exact placed (List.eq_nil_of_length_eq_zero length.symm)
  obtain ⟨slot, given⟩ := List.exists_mem_of_ne_nil _ some
  have used := (RootBus.mem_usedSlots _ _).mpr ((h.isUsed_iff slot).mpr (Or.inr (Or.inr given)))
  intro same
  rw [same, RootBus.mem_usedSlots, h.slots_fresh given] at used
  cases used

end Granted

end GuestLaunch
