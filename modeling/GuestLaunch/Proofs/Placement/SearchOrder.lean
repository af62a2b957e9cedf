import GuestLaunch.Proofs.Placement.AutomaticPlacement
import GuestLaunch.Proofs.Placement.SlotMachine

/-!
The order of automatic placements over the whole life of a bus. Whatever stands between them, the
slots that searches find descend: no operation opens a slot again, and each search takes the highest
open one.
-/

namespace GuestLaunch

/-- An operation that has to search for a slot: it asks for any one, or its address is empty, asks
for none, or asks for one that is used and that the legacy policy replaces.
-/
def RootBus.Searches (bus : RootBus) : BusOperation → Prop
  | .allocateAutomatic => True
  | .allocate address =>
      address = ""
      ∨ (∀ slot, ¬AsksFor address slot)
      ∨ bus.policy = .legacy ∧ ∃ slot, AsksFor address slot ∧ slot ∈ bus.usedSet
  | .take _ | .claim _ => False

/-- A step of a sequence that searches for a slot. -/
def BusStep.IsSearch (step : BusStep) : Prop := step.before.Searches step.operation

/-- A slot that a search finds. -/
def BusStep.Finds (step : BusStep) (slot : Nat) : Prop :=
  step.IsSearch ∧ step.answer = .ok (some slot)

/-- A search that finds no slot, because none is left. -/
def BusStep.FindsNone (step : BusStep) : Prop :=
  step.IsSearch ∧ step.answer = .error (.exhausted 4 30)

/-- The searches in a sequence of operations. -/
structure SearchesDescend (bus : RootBus) (operations : List BusOperation) : Prop where
  /-- Every search finds a free one of the slots 4 to 30, or none because all of them are used. -/
  answered
    : ∀ step ∈ bus.trace operations,
        step.IsSearch
        → (∃ slot ∈ freeSlots step.before.usedSet, step.Finds slot)
          ∨ step.FindsNone ∧ freeSlots step.before.usedSet = ∅
  /-- What is found later lies below all that was found before. -/
  descending
    : (bus.trace operations).Pairwise fun earlier later =>
        ∀ slot further, earlier.Finds slot → later.Finds further → further < slot
  /-- Once none has been found, none is found any more. -/
  exhausted
    : (bus.trace operations).Pairwise fun earlier later =>
        earlier.FindsNone → later.IsSearch → later.FindsNone

-----------------------------------------------------------------------------------------
-- Open slots of a bus
-----------------------------------------------------------------------------------------

namespace RootBus
variable {bus : RootBus} {slot : Nat}

/-- The open slots are the free ones of the machine. -/
theorem mem_openSlots : slot ∈ bus.openSlots ↔ slot ∈ freeSlots bus.usedSet := by
  rw [mem_freeSlots_usedSet, openSlots, List.mem_filter]

/-- Occupying a slot gives none back. -/
theorem isUsed_occupy_of_isUsed (used : bus.isUsed slot = true) (other : Nat)
    : (bus.occupy other).isUsed slot = true := by
  by_cases inside : other < slotCount
  · rw [isUsed_occupy _ _ _ inside, used, Bool.or_true]
  · have outside : other ≠ slot := by
      rintro rfl
      exact inside (lt_slotCount_of_isUsed used)
    simpa [isUsed, occupy, outside] using used

/-- A slot that is open behind an operation was open before it. -/
theorem openSlots_perform (bus : RootBus) (operation : BusOperation)
    : (bus.perform operation).2.openSlots ⊆ bus.openSlots := by
  intro slot opened
  obtain ⟨listed, free⟩ := List.mem_filter.mp opened
  refine List.mem_filter.mpr ⟨listed, ?_⟩
  cases used : bus.isUsed slot with
  | false => rfl
  | true =>
      rw [perform] at free
      cases attempted : bus.attempt operation with
      | error cause => simp [attempted, used] at free
      | ok result =>
          obtain ⟨own, occupied⟩ := occupy_of_attempt attempted
          simp [attempted, occupied, isUsed_occupy_of_isUsed used own] at free

/-- Behind any sequence of operations no slot is open that was not open before, by induction on the
sequence.
-/
theorem openSlots_of_mem_trace {operations : List BusOperation} {step : BusStep}
    (member : step ∈ bus.trace operations)
    : step.before.openSlots ⊆ bus.openSlots := by
  induction operations generalizing bus with
  | nil => cases member
  | cons operation rest ih =>
      rcases List.mem_cons.mp member with rfl | behind
      · exact fun _ own => own
      · exact fun _ own => bus.openSlots_perform operation (ih behind own)

-----------------------------------------------------------------------------------------
-- Searches
-----------------------------------------------------------------------------------------

/-- The empty address asks for no slot. -/
theorem not_asksFor_empty : ¬AsksFor "" slot := by
  rintro ⟨named, _⟩
  have unnamed : BusAddress.slot? "" = none := by decide
  cases unnamed.symm.trans named

/-- An operation that searches does what the search for any slot does, by the reason for which it
searches.
-/
theorem perform_of_searches {operation : BusOperation} (searching : bus.Searches operation)
    : bus.perform operation = bus.perform .allocateAutomatic := by
  cases operation with
  | allocateAutomatic => rfl
  | take | claim => cases searching
  | allocate address =>
      have same : bus.allocate address = bus.allocateAutomatic := by
        rcases searching with rfl | unasked | ⟨legacy, slot, asked, taken⟩
        · exact allocate_of_unasked fun _ => not_asksFor_empty
        · exact allocate_of_unasked unasked
        · rw [allocate_of_taken asked taken, legacy]
      simp only [perform, attempt, same]

/-- A search takes the first open slot, if there is any. -/
theorem search_cases {operation : BusOperation} (searching : bus.Searches operation)
    : bus.openSlots = [] ∧ bus.perform operation = (.error (.exhausted 4 30), bus)
      ∨ ∃ slot rest,
          bus.openSlots = slot :: rest
          ∧ bus.perform operation = (.ok (some slot), bus.occupy slot) := by
  rw [perform_of_searches searching, perform, attempt, allocateAutomatic_eq]
  cases slots : bus.openSlots with
  | nil => exact Or.inl ⟨rfl, rfl⟩
  | cons slot rest => exact Or.inr ⟨slot, rest, rfl, rfl⟩

/-- The open slots are listed from the top of the bus down. -/
theorem openSlots_descending (bus : RootBus) : bus.openSlots.Pairwise (· > ·) :=
  automaticSlots_descending.filter _

end RootBus

namespace BusStep
variable {step : BusStep} {slot : Nat}

/-- A step answers as its operation is performed. -/
def Performed (step : BusStep) : Prop :=
  step.before.perform step.operation = (step.answer, step.after)

/-- A search finds nothing exactly if no slot is open. -/
theorem Performed.findsNone_iff (h : step.Performed) (searching : step.IsSearch)
    : step.FindsNone ↔ step.before.openSlots = [] := by
  rcases RootBus.search_cases searching with ⟨full, none⟩ | ⟨slot, rest, slots, found⟩
  · have answer := congrArg Prod.fst (h.symm.trans none)
    exact ⟨fun _ => full, fun _ => ⟨searching, answer⟩⟩
  · have answer : step.answer = .ok (some slot) := congrArg Prod.fst (h.symm.trans found)
    constructor
    · intro failed
      cases answer.symm.trans failed.2
    · intro full
      cases slots.symm.trans full

/-- What a search finds is the first open slot, and behind it all open slots lie below. -/
theorem Performed.openSlots_of_finds (h : step.Performed) (found : step.Finds slot)
    : slot ∈ step.before.openSlots ∧ ∀ further ∈ step.after.openSlots, further < slot := by
  rcases RootBus.search_cases found.1 with ⟨_, none⟩ | ⟨first, rest, slots, taken⟩
  · cases (congrArg Prod.fst (h.symm.trans none)).symm.trans found.2
  · obtain ⟨answer, after⟩ := Prod.mk.inj (h.symm.trans taken)
    obtain rfl : first = slot := by
      cases answer.symm.trans found.2
      rfl
    rw [slots, after, RootBus.openSlots_occupy slots]
    have descending := step.before.openSlots_descending
    rw [slots] at descending
    exact ⟨List.mem_cons_self, (List.pairwise_cons.mp descending).1⟩

end BusStep

namespace RootBus

/-- A relation that holds between a step and all steps behind it holds throughout a sequence, by
induction on the sequence.
-/
theorem pairwise_trace {relation : BusStep → BusStep → Prop}
    (holds
      : ∀ step : BusStep,
          step.Performed → ∀ rest, ∀ later ∈ step.after.trace rest, relation step later)
    (bus : RootBus) (operations : List BusOperation)
    : (bus.trace operations).Pairwise relation := by
  induction operations generalizing bus with
  | nil => exact .nil
  | cons operation rest ih =>
      let first : BusStep :=
        { before := bus
          operation
          answer := (bus.perform operation).1
          after := (bus.perform operation).2 }
      have performed : first.Performed := rfl
      exact .cons (holds first performed rest) (ih _)

end RootBus

/-- The slots that searches find on a bus descend within the slots 4 to 30, whatever operations
stand between the searches, and once a search has found none, no later one finds any.
-/
theorem bus_searches_descend (bus : RootBus) (operations : List BusOperation)
    : SearchesDescend bus operations := by
  constructor
  case answered =>
    intro step member searching
    have performed : step.Performed := (RootBus.perform_of_mem_trace member).2
    rcases RootBus.search_cases searching with ⟨full, _⟩ | ⟨slot, rest, slots, found⟩
    · refine Or.inr ⟨(performed.findsNone_iff searching).mpr full, ?_⟩
      refine Finset.eq_empty_of_forall_notMem fun slot free => ?_
      have opened := RootBus.mem_openSlots.mpr free
      rw [full] at opened
      cases opened
    · have opened : slot ∈ step.before.openSlots := by
        rw [slots]
        exact List.mem_cons_self
      have answer : step.answer = .ok (some slot) :=
        congrArg Prod.fst (performed.symm.trans found)
      exact Or.inl ⟨slot, RootBus.mem_openSlots.mp opened, searching, answer⟩
  case descending =>
    refine RootBus.pairwise_trace (fun step performed rest later member => ?_) bus operations
    intro slot further found again
    have below := (performed.openSlots_of_finds found).2
    have behind : later.Performed := (RootBus.perform_of_mem_trace member).2
    have opened := (behind.openSlots_of_finds again).1
    exact below further (RootBus.openSlots_of_mem_trace member opened)
  case exhausted =>
    refine RootBus.pairwise_trace (fun step performed rest later member => ?_) bus operations
    intro failed searching
    have full : step.before.openSlots = [] := (performed.findsNone_iff failed.1).mp failed
    have behind : later.Performed := (RootBus.perform_of_mem_trace member).2
    refine (behind.findsNone_iff searching).mpr (List.eq_nil_iff_forall_not_mem.mpr ?_)
    intro slot opened
    have after : step.after.openSlots ⊆ step.before.openSlots := by
      have kept := step.before.openSlots_perform step.operation
      rw [performed] at kept
      exact kept
    have before := after (RootBus.openSlots_of_mem_trace member opened)
    rw [full] at before
    cases before

end GuestLaunch
