import GuestLaunch.Proofs.Indices.FollowingIndex
import GuestLaunch.Proofs.Resources.Requests

/-!
What a run answers to a request. Every operation on the root bus and on the boot indices either
gives out one thing or fails for causes of its own, so a grant and a refusal each say which
request it was and what the state was.
-/

namespace GuestLaunch

-----------------------------------------------------------------------------------------
-- Operations of the bus and of the index registry
-----------------------------------------------------------------------------------------

namespace RootBus
variable {bus after : RootBus} {address : String} {slot : Nat} {cause : AllocationError}

theorem occupy_of_isUsed (used : bus.isUsed slot = true) : bus.occupy slot = bus := by
  have inside := lt_slotCount_of_isUsed used
  have set : bus.occupied.setIfInBounds slot true = bus.occupied := by
    refine Vector.ext fun position bound => ?_
    by_cases same : slot = position
    · subst same
      simpa [isUsed, bound] using used.symm
    · simp [same]
  rw [occupy, set]

/-- A claim succeeds exactly for the slots of the bus, and occupies the slot. -/
theorem claim_eq_ok_iff
    : bus.claim slot = .ok after ↔ slot < slotCount ∧ after = bus.occupy slot := by
  by_cases used : bus.isUsed slot
  · have inside := lt_slotCount_of_isUsed used
    simp [claim, used, inside, occupy_of_isUsed used, eq_comm]
  · by_cases inside : slot < slotCount
    · simp [claim, take, used, inside, Nat.not_le.mpr inside, eq_comm]
    · simp [claim, take, used, inside, Nat.not_lt.mp inside]

/-- A claim fails exactly beyond the end of the bus. In particular it never collides. -/
theorem claim_eq_error_iff
    : bus.claim slot = .error cause ↔ slotCount ≤ slot ∧ cause = .outOfRange slot := by
  by_cases used : bus.isUsed slot
  · have inside := lt_slotCount_of_isUsed used
    simp [claim, used, Nat.not_le.mpr inside]
  · by_cases inside : slot < slotCount
    · simp [claim, take, used, Nat.not_le.mpr inside]
    · simp [claim, take, used, Nat.not_lt.mp inside, eq_comm]

/-- An automatic slot is a free one above the reserved slots. -/
theorem allocateAutomatic_ok (h : bus.allocateAutomatic = .ok (slot, after))
    : bus.isUsed slot = false
      ∧ (lastReservedSlot < slot ∧ slot < slotCount)
      ∧ after = bus.occupy slot := by
  unfold allocateAutomatic at h
  split at h
  · rename_i search
    cases h
    have member := (mem_automaticSlots slot).mp (List.mem_of_find?_eq_some search)
    have free := List.find?_some search
    exact ⟨by simpa using free, member, rfl⟩
  · cases h

/-- Asking for any slot fails only where no automatic slot is left. -/
theorem allocateAutomatic_error (h : bus.allocateAutomatic = .error cause)
    : cause = .exhausted (lastReservedSlot + 1) (slotCount - 1) := by
  unfold allocateAutomatic at h
  split at h
  · cases h
  · cases h
    rfl

/-- The slot that an address asks for is one of the bus other than the first. -/
theorem requestedSlot?_range (asked : requestedSlot? address = some slot)
    : 1 ≤ slot ∧ slot < slotCount := by
  have range := (Option.filter_eq_some_iff.mp asked).2
  simpa using range

/-- An allocated slot is a free one of the bus, other than the first. -/
theorem allocate_ok (h : bus.allocate address = .ok (slot, after))
    : bus.isUsed slot = false ∧ (1 ≤ slot ∧ slot < slotCount) ∧ after = bus.occupy slot := by
  have automatic (found : bus.allocateAutomatic = .ok (slot, after))
      : bus.isUsed slot = false
        ∧ (1 ≤ slot ∧ slot < slotCount)
        ∧ after = bus.occupy slot := by
    obtain ⟨free, ⟨reserved, inside⟩, rfl⟩ := allocateAutomatic_ok found
    exact ⟨free, ⟨Nat.lt_of_le_of_lt (Nat.zero_le _) reserved, inside⟩, rfl⟩
  cases asked : requestedSlot? address with
  | none => exact automatic (by simpa only [allocate, asked] using h)
  | some wanted =>
      by_cases used : bus.isUsed wanted
      · cases policy : bus.policy with
        | strict => simp [allocate, asked, used, policy] at h
        | legacy =>
            apply automatic
            simpa only [allocate, asked, used, policy, if_true] using h
      · simp only [allocate, asked, used, if_false, Bool.false_eq_true, Except.ok.injEq,
          Prod.mk.injEq] at h
        obtain ⟨rfl, rfl⟩ := h
        exact ⟨by simpa using used, requestedSlot?_range asked, rfl⟩

/-- Where an address asks for no slot, the allocated one lies above the reserved slots. -/
theorem allocate_reserved (unasked : requestedSlot? address = none)
    (h : bus.allocate address = .ok (slot, after))
    : lastReservedSlot < slot := by
  have automatic : bus.allocateAutomatic = .ok (slot, after) := by
    simpa only [allocate, unasked] using h
  exact (allocateAutomatic_ok automatic).2.1.1

/-- An allocation fails where no automatic slot is left, and under the strict policy also where
the slot that the address asks for is occupied.
-/
theorem allocate_error (h : bus.allocate address = .error cause)
    : cause = .exhausted (lastReservedSlot + 1) (slotCount - 1)
      ∨ bus.policy = .strict ∧ ∃ slot, cause = .collision slot := by
  cases asked : requestedSlot? address with
  | none =>
      have automatic : bus.allocateAutomatic = .error cause := by
        simpa only [allocate, asked] using h
      exact Or.inl (allocateAutomatic_error automatic)
  | some wanted =>
      by_cases used : bus.isUsed wanted
      · cases policy : bus.policy with
        | strict =>
            simp only [allocate, asked, used, policy, if_true, Except.error.injEq] at h
            exact Or.inr ⟨rfl, wanted, h.symm⟩
        | legacy =>
            have automatic : bus.allocateAutomatic = .error cause := by
              simpa only [allocate, asked, used, policy, if_true] using h
            exact Or.inl (allocateAutomatic_error automatic)
      · simp [allocate, asked, used] at h

end RootBus

namespace IndexRegistry
variable {registry : IndexRegistry} {index : UInt32}

theorem bootCategory_isEmpty : bootCategory.isEmpty = false := by decide

/-- A boot index that is recorded is refused, and any other one is recorded. -/
theorem reserve_boot
    : registry.reserve bootCategory index
      = if registry.contains bootCategory index then .error (.indexTaken bootCategory index)
        else .ok (registry.insert bootCategory index) := by
  simp only [reserve, bootCategory_isEmpty, Bool.false_eq_true, if_false]

/-- The only failure to give out a boot index is that the greatest one is recorded. -/
theorem next_boot_error {cause : AllocationError}
    (h : registry.next bootCategory = .error cause)
    : cause = .noNextIndex bootCategory :=
  ((next_eq_error_iff bootCategory_isEmpty).mp h).2

end IndexRegistry

-----------------------------------------------------------------------------------------
-- Grants and refusals
-----------------------------------------------------------------------------------------

/-- A request that is granted in a state, with the grant and the state after it. -/
inductive Answered (state : RunState) : Request → Grant → RunState → Prop
  | claim {slot} (inside : slot < slotCount)
    : Answered state (.claim slot) .recorded { state with bus := state.bus.occupy slot }
  | place {address slot bus} (allocated : state.bus.allocate address = .ok (slot, bus))
    : Answered state (.place address) (.slot slot) { state with bus }
  | reserve {index}
    (fresh : state.indices.contains IndexRegistry.bootCategory index = false)
    : Answered state (.reserve index) .recorded
        { state with indices := state.indices.insert IndexRegistry.bootCategory index }
  | number {index indices}
    (numbered : state.indices.next IndexRegistry.bootCategory = .ok (index, indices))
    : Answered state .number (.index index) { state with indices }
  | inherit {key descriptors}
    : Answered state (.inherit key descriptors)
        (.children key
          ((List.range' state.descriptors.length descriptors.length).map childDescriptor))
        { state with descriptors := state.descriptors ++ descriptors }

/-- A request that is refused in a state, with the cause. -/
inductive Refusal (state : RunState) : Request → AllocationError → Prop
  | outOfRange {slot} (beyond : slotCount ≤ slot)
    : Refusal state (.claim slot) (.outOfRange slot)
  | exhausted {address}
    : Refusal state (.place address) (.exhausted (lastReservedSlot + 1) (slotCount - 1))
  | collision {address slot} (strict : state.bus.policy = .strict)
    : Refusal state (.place address) (.collision slot)
  | indexTaken {index}
    (taken : state.indices.contains IndexRegistry.bootCategory index = true)
    : Refusal state (.reserve index) (.indexTaken IndexRegistry.bootCategory index)
  | noNextIndex : Refusal state .number (.noNextIndex IndexRegistry.bootCategory)

namespace Request
variable {request : Request} {state next : RunState} {grant : Grant}
  {cause : AllocationError}

theorem answer_claim_of_inside {slot : Nat} (state : RunState) (inside : slot < slotCount)
    : (claim slot).answer state
      = .ok (.recorded, { state with bus := state.bus.occupy slot }) := by
  have claimed : state.bus.claim slot = .ok (state.bus.occupy slot) :=
    RootBus.claim_eq_ok_iff.mpr ⟨inside, rfl⟩
  rw [answer, claimed]
  rfl

theorem answer_claim_of_beyond {slot : Nat} (state : RunState) (beyond : slotCount ≤ slot)
    : (claim slot).answer state = .error (.outOfRange slot) := by
  have claimed : state.bus.claim slot = .error (.outOfRange slot) :=
    RootBus.claim_eq_error_iff.mpr ⟨beyond, rfl⟩
  rw [answer, claimed]
  rfl

/-- Whatever a run grants is granted in one of five ways, by the kind of the request. -/
theorem answered_of_ok (h : request.answer state = .ok (grant, next))
    : Answered state request grant next := by
  cases request with
  | claim slot =>
      cases claimed : state.bus.claim slot with
      | error cause => simp [answer, claimed, Except.map] at h
      | ok bus =>
          simp only [answer, claimed, Except.map, Except.ok.injEq, Prod.mk.injEq] at h
          obtain ⟨rfl, rfl⟩ := h
          obtain ⟨inside, rfl⟩ := RootBus.claim_eq_ok_iff.mp claimed
          exact .claim inside
  | place address =>
      cases allocated : state.bus.allocate address with
      | error cause => simp [answer, allocated, Except.map] at h
      | ok placed =>
          simp only [answer, allocated, Except.map, Except.ok.injEq, Prod.mk.injEq] at h
          obtain ⟨rfl, rfl⟩ := h
          exact .place allocated
  | reserve index =>
      rw [answer, IndexRegistry.reserve_boot] at h
      cases taken : state.indices.contains IndexRegistry.bootCategory index with
      | true => simp [taken, Except.map] at h
      | false =>
          simp only [taken, Bool.false_eq_true, if_false, Except.map, Except.ok.injEq,
            Prod.mk.injEq] at h
          obtain ⟨rfl, rfl⟩ := h
          exact .reserve taken
  | number =>
      cases numbered : state.indices.next IndexRegistry.bootCategory with
      | error cause => simp [answer, numbered, Except.map] at h
      | ok found =>
          simp only [answer, numbered, Except.map, Except.ok.injEq, Prod.mk.injEq] at h
          obtain ⟨rfl, rfl⟩ := h
          exact .number numbered
  | inherit key descriptors =>
      simp only [answer, Except.ok.injEq, Prod.mk.injEq] at h
      obtain ⟨rfl, rfl⟩ := h
      exact .inherit

/-- Whatever a run does not grant is refused for a cause that goes with the request, by the
kind of the request. Descriptors are always granted.
-/
theorem refusal_of_answer (h : request.answer state = .error cause)
    : Refusal state request cause := by
  cases request with
  | claim slot =>
      cases claimed : state.bus.claim slot with
      | ok bus => simp [answer, claimed, Except.map] at h
      | error own =>
          simp only [answer, claimed, Except.map, Except.error.injEq] at h
          obtain ⟨beyond, rfl⟩ := RootBus.claim_eq_error_iff.mp claimed
          exact h ▸ .outOfRange beyond
  | place address =>
      cases allocated : state.bus.allocate address with
      | ok placed => simp [answer, allocated, Except.map] at h
      | error own =>
          simp only [answer, allocated, Except.map, Except.error.injEq] at h
          rcases RootBus.allocate_error allocated with rfl | ⟨strict, slot, rfl⟩
          · exact h ▸ .exhausted
          · exact h ▸ .collision strict
  | reserve index =>
      rw [answer, IndexRegistry.reserve_boot] at h
      cases taken : state.indices.contains IndexRegistry.bootCategory index with
      | false => simp [taken, Except.map] at h
      | true =>
          simp only [taken, if_true, Except.map, Except.error.injEq] at h
          exact h ▸ .indexTaken taken
  | number =>
      cases numbered : state.indices.next IndexRegistry.bootCategory with
      | ok found => simp [answer, numbered, Except.map] at h
      | error own =>
          simp only [answer, numbered, Except.map, Except.error.injEq] at h
          rw [← h, IndexRegistry.next_boot_error numbered]
          exact .noNextIndex
  | inherit key descriptors => cases h

/-- A request for a slot is refused for the cause for which the bus has none. -/
theorem allocate_of_refused {address : String} (h : (place address).answer state = .error cause)
    : state.bus.allocate address = .error cause := by
  cases allocated : state.bus.allocate address with
  | ok placed => simp [answer, allocated, Except.map] at h
  | error own => simpa [answer, allocated, Except.map] using h

theorem policy_of_answer (h : request.answer state = .ok (grant, next))
    : next.bus.policy = state.bus.policy := by
  cases answered_of_ok h with
  | place allocated =>
      obtain ⟨_, _, rfl⟩ := RootBus.allocate_ok allocated
      rfl
  | claim | reserve | number | inherit => rfl

end Request

/-- A run that grants requests keeps its policy, by induction on the run. -/
theorem Granted.policy_eq {state final : RunState} {requests : List Request}
    {grants : List Grant} (h : Granted state requests grants final)
    : final.bus.policy = state.bus.policy := by
  induction h with
  | nil => rfl
  | cons first _ ih => exact ih.trans (Request.policy_of_answer first)

/-- A run that refuses something refuses one request of its list for a cause that goes with the
request, and has granted those before it.
-/
theorem Refused.exists_refusal {state final : RunState} {requests : List Request}
    {cause : AllocationError} (h : Refused state requests cause final)
    : ∃ before request after grants,
        requests = before ++ request :: after
        ∧ Granted state before grants final
        ∧ Refusal final request cause := by
  obtain ⟨before, request, after, grants, split, granted, answer⟩ := h.exists_answer
  exact ⟨before, request, after, grants, split, granted, Request.refusal_of_answer answer⟩

/-- The refused request is one of the list. -/
theorem Refused.exists_mem_refusal {state final : RunState} {requests : List Request}
    {cause : AllocationError} (h : Refused state requests cause final)
    : ∃ request ∈ requests, Refusal final request cause := by
  obtain ⟨before, request, after, _, rfl, _, refusal⟩ := h.exists_refusal
  exact ⟨request, List.mem_append_right _ List.mem_cons_self, refusal⟩

end GuestLaunch
