import GuestLaunch.Proofs.Resources.Answers
import GuestLaunch.Proofs.Resources.AssemblyRun

/-!
The two collision policies. A run under the strict policy and one under the legacy policy go
through the same states up to the first collision, which only the strict one reports.
-/

namespace GuestLaunch

-----------------------------------------------------------------------------------------
-- States that differ in their policy
-----------------------------------------------------------------------------------------

/-- A bus with the same occupied slots under the legacy policy. -/
def RootBus.toLegacy (bus : RootBus) : RootBus := { bus with policy := .legacy }

/-- A state with the same resources under the legacy policy. -/
def RunState.toLegacy (state : RunState) : RunState := { state with bus := state.bus.toLegacy }

def NoCollision {α : Type} (result : Except AllocationError α) : Prop :=
  ∀ slot, result ≠ .error (.collision slot)

namespace RootBus

/-- Claims do not depend on the policy. -/
theorem claim_toLegacy (bus : RootBus) (slot : Nat)
    : bus.toLegacy.claim slot = (bus.claim slot).map toLegacy := by
  by_cases inside : slot < slotCount
  · have own : bus.claim slot = .ok (bus.occupy slot) :=
      claim_eq_ok_iff.mpr ⟨inside, rfl⟩
    have legacy : bus.toLegacy.claim slot = .ok (bus.toLegacy.occupy slot) :=
      claim_eq_ok_iff.mpr ⟨inside, rfl⟩
    rw [own, legacy]
    rfl
  · have beyond := Nat.not_lt.mp inside
    have own : bus.claim slot = .error (.outOfRange slot) :=
      claim_eq_error_iff.mpr ⟨beyond, rfl⟩
    have legacy : bus.toLegacy.claim slot = .error (.outOfRange slot) :=
      claim_eq_error_iff.mpr ⟨beyond, rfl⟩
    rw [own, legacy]
    rfl

/-- Taking any automatic slot does not depend on the policy. -/
theorem allocateAutomatic_toLegacy (bus : RootBus)
    : bus.toLegacy.allocateAutomatic
      = bus.allocateAutomatic.map fun placed => (placed.1, placed.2.toLegacy) := by
  have search : (automaticSlots.find? fun slot => !bus.toLegacy.isUsed slot)
      = automaticSlots.find? fun slot => !bus.isUsed slot :=
    rfl
  rw [allocateAutomatic, search, allocateAutomatic]
  cases automaticSlots.find? fun slot => !bus.isUsed slot <;> rfl

/-- An allocation that does not collide does not depend on the policy, because only an occupied
slot that is asked for is treated as the policy says.
-/
theorem allocate_toLegacy {bus : RootBus} {address : String}
    (free : NoCollision (bus.allocate address))
    : bus.toLegacy.allocate address
      = (bus.allocate address).map fun placed => (placed.1, placed.2.toLegacy) := by
  have same (slot : Nat) : bus.toLegacy.isUsed slot = bus.isUsed slot := rfl
  cases asked : requestedSlot? address with
  | none =>
      simp only [allocate, asked]
      exact bus.allocateAutomatic_toLegacy
  | some slot =>
      by_cases used : bus.isUsed slot
      · cases policy : bus.policy with
        | strict =>
            refine absurd ?_ (free slot)
            simp only [allocate, asked, used, policy, if_true]
        | legacy =>
            have unchanged : bus.toLegacy.policy = .legacy := rfl
            simp only [allocate, asked, same, used, policy, unchanged, if_true]
            exact bus.allocateAutomatic_toLegacy
      · simp only [allocate, asked, same, used, if_false, Bool.false_eq_true]
        rfl

end RootBus

/-- A request that does not collide is answered alike under both policies, by the kind of the
request.
-/
theorem Request.answer_toLegacy {request : Request} {state : RunState}
    (free : NoCollision (request.answer state))
    : request.answer state.toLegacy
      = (request.answer state).map fun granted => (granted.1, granted.2.toLegacy) := by
  cases request with
  | claim slot =>
      have step : state.toLegacy.bus.claim slot
          = (state.bus.claim slot).map RootBus.toLegacy :=
        state.bus.claim_toLegacy slot
      rw [answer, step, answer]
      cases state.bus.claim slot <;> rfl
  | place address =>
      have inner : NoCollision (state.bus.allocate address) := by
        intro slot collides
        refine free slot ?_
        rw [answer, collides]
        rfl
      have step : state.toLegacy.bus.allocate address
          = (state.bus.allocate address).map fun placed => (placed.1, placed.2.toLegacy) :=
        RootBus.allocate_toLegacy inner
      rw [answer, step, answer]
      cases state.bus.allocate address <;> rfl
  | reserve index =>
      have step : state.toLegacy.indices = state.indices := rfl
      rw [answer, step, answer]
      cases state.indices.reserve IndexRegistry.bootCategory index <;> rfl
  | number =>
      have step : state.toLegacy.indices = state.indices := rfl
      rw [answer, step, answer]
      cases state.indices.next IndexRegistry.bootCategory <;> rfl
  | inherit key descriptors => rfl

/-- What is granted under any policy is granted alike under the legacy one. -/
theorem Request.grant_toLegacy {request : Request} {state next : RunState} {grant : Grant}
    (h : request.answer state = .ok (grant, next))
    : request.answer state.toLegacy = .ok (grant, next.toLegacy) := by
  have free : NoCollision (request.answer state) := by
    intro slot collides
    cases h.symm.trans collides
  rw [Request.answer_toLegacy free, h]
  rfl

-----------------------------------------------------------------------------------------
-- Runs in lockstep
-----------------------------------------------------------------------------------------

/-- A run that grants all its requests grants them alike under the legacy policy, by induction
on the run.
-/
theorem Granted.toLegacy {state final : RunState} {requests : List Request}
    {grants : List Grant} (h : Granted state requests grants final)
    : Granted state.toLegacy requests grants final.toLegacy := by
  induction h with
  | nil => exact .nil
  | cons first _ ih => exact .cons (Request.grant_toLegacy first) ih

/-- A plan that is granted is granted alike under the legacy policy, by induction on the
plan.
-/
theorem PlanGranted.toLegacy {state final : RunState} {plan : List PlannedDevice}
    {grants : List (List Grant)} (h : PlanGranted state plan grants final)
    : PlanGranted state.toLegacy plan grants final.toLegacy := by
  induction h with
  | nil => exact .nil
  | cons first _ ih => exact .cons first.toLegacy ih

/-- A run that refuses a request for any cause but a collision refuses it alike under the
legacy policy, by induction on the run.
-/
theorem Refused.toLegacy {state final : RunState} {requests : List Request}
    {cause : AllocationError} (h : Refused state requests cause final)
    (other : ∀ slot, cause ≠ .collision slot)
    : Refused state.toLegacy requests cause final.toLegacy := by
  induction h with
  | @here state request rest cause first =>
      have free : NoCollision (request.answer state) := by
        intro slot collides
        rw [first] at collides
        cases collides
        exact other slot rfl
      apply Refused.here
      rw [Request.answer_toLegacy free, first]
      rfl
  | later first _ ih => exact .later (Request.grant_toLegacy first) (ih other)

/-- A collision is reported under the strict policy only, by what refuses a request in the last
state of the run.
-/
theorem Refused.strict_of_collision {state final : RunState} {requests : List Request}
    {slot : Nat} (h : Refused state requests (.collision slot) final)
    : state.bus.policy = .strict := by
  obtain ⟨_, _, _, _, _, granted, refusal⟩ := h.exists_refusal
  cases refusal with
  | collision strict => exact granted.policy_eq.symm.trans strict

-----------------------------------------------------------------------------------------
-- Assemblies
-----------------------------------------------------------------------------------------

/-- How a guest is assembled on a host of an architecture under a policy. -/
def outcomeUnder (policy : CollisionPolicy) (architecture : Architecture) (config : Config)
    : Except BuildFailure Invocation :=
  (build { architecture, policy } config).outcome

/-- An assembly that succeeds under the strict policy gives the same invocation under the legacy
one: its run is one under the legacy policy, too.
-/
theorem outcome_toLegacy_of_ok {architecture : Architecture} {config : Config}
    {invocation : Invocation}
    (built : outcomeUnder .strict architecture config = .ok invocation)
    : outcomeUnder .legacy architecture config = .ok invocation := by
  obtain ⟨valid, run, rfl⟩ := build_ok_iff.mp built
  let legacy : GrantedRun { architecture, policy := .legacy } config :=
    { reserved := run.reserved.toLegacy
      placed := run.placed.toLegacy
      final := run.final.toLegacy
      reservations := run.reservations
      grants := run.grants
      incoming := run.incoming
      reserve_granted := run.reserve_granted.toLegacy
      devices_granted := run.devices_granted.toLegacy
      incoming_granted := run.incoming_granted.toLegacy }
  exact legacy.build_outcome valid

/-- The strict policy gives what the legacy one gives, be it an invocation or a failure, or it
reports a collision; and the legacy policy never reports one. The two runs go in lockstep up to
the first collision.
-/
theorem strict_eq_legacy_or_collision (architecture : Architecture) (config : Config)
    : (outcomeUnder .strict architecture config = outcomeUnder .legacy architecture config
        ∨ ∃ slot,
            outcomeUnder .strict architecture config
              = .error (.allocation (.collision slot)))
      ∧ ∀ slot,
          outcomeUnder .legacy architecture config
            ≠ .error (.allocation (.collision slot)) := by
  constructor
  · cases strict : outcomeUnder .strict architecture config with
    | ok invocation => exact Or.inl (outcome_toLegacy_of_ok strict).symm
    | error failure =>
        cases failure with
        | invalid problems =>
            refine Or.inl (Eq.symm ?_)
            exact build_invalid_iff.mpr (build_invalid_iff.mp strict)
        | allocation cause =>
            obtain ⟨valid, final, refused⟩ := build_error_iff.mp strict
            by_cases collides : ∃ slot, cause = .collision slot
            · obtain ⟨slot, rfl⟩ := collides
              exact Or.inr ⟨slot, rfl⟩
            · have other : ∀ slot, cause ≠ .collision slot := not_exists.mp collides
              refine Or.inl (Eq.symm ?_)
              exact build_error_iff.mpr ⟨valid, final.toLegacy, refused.toLegacy other⟩
  · intro slot collides
    obtain ⟨_, _, refused⟩ := build_error_iff.mp collides
    cases refused.strict_of_collision

end GuestLaunch
