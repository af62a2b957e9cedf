import GuestLaunch.Proofs.Resources.Answers
import Mathlib.Data.Finset.Sort
import Mathlib.Order.Interval.Finset.Nat

/-!
The root bus as a machine over a set of used slots. Whatever sequence of operations a bus goes
through from its empty state, it answers each of them as the machine does, and it holds the set
of the machine throughout.
-/

namespace GuestLaunch

/-- An operation on a bus. -/
inductive BusOperation where
  | allocate (address : String)
  | allocateAutomatic
  | take (slot : Nat)
  | claim (slot : Nat)
deriving DecidableEq, Repr

/-- What a bus answers: the cause of a failure, or else the slot that it gives out, if the
operation is one that gives out a slot.
-/
abbrev BusAnswer := Except AllocationError (Option Nat)

namespace RootBus

def attempt (bus : RootBus) : BusOperation → Except AllocationError (Option Nat × RootBus)
  | .allocate address => (bus.allocate address).map fun placed => (some placed.1, placed.2)
  | .allocateAutomatic => bus.allocateAutomatic.map fun placed => (some placed.1, placed.2)
  | .take slot => (bus.take slot).map fun taken => (none, taken)
  | .claim slot => (bus.claim slot).map fun claimed => (none, claimed)

/-- Performs an operation. One that fails leaves the bus as it is. -/
def perform (bus : RootBus) (operation : BusOperation) : BusAnswer × RootBus :=
  match bus.attempt operation with
  | .ok (given, after) => (.ok given, after)
  | .error cause => (.error cause, bus)

end RootBus

/-- One operation of a sequence, with the bus before it and after it. -/
structure BusStep where
  before : RootBus
  operation : BusOperation
  answer : BusAnswer
  after : RootBus

namespace RootBus

/-- The steps of a sequence of operations. -/
def trace (bus : RootBus) : List BusOperation → List BusStep
  | [] => []
  | operation :: rest =>
      { before := bus
        operation
        answer := (bus.perform operation).1
        after := (bus.perform operation).2 }
        :: trace (bus.perform operation).2 rest

/-- The bus after a sequence of operations. -/
def performAll (bus : RootBus) (operations : List BusOperation) : RootBus :=
  operations.foldl (fun current operation => (current.perform operation).2) bus

/-- The set of the occupied slots. -/
def usedSet (bus : RootBus) : Finset Nat :=
  (Finset.range slotCount).filter fun slot => bus.isUsed slot = true

end RootBus

-----------------------------------------------------------------------------------------
-- The machine
-----------------------------------------------------------------------------------------

/-- An address asks for a slot: it names one, and the bus has it behind the first. -/
def AsksFor (address : String) (slot : Nat) : Prop :=
  BusAddress.slot? address = some slot ∧ 1 ≤ slot ∧ slot ≤ 30

/-- The slots that the machine may give out by itself. -/
def freeSlots (used : Finset Nat) : Finset Nat := Finset.Icc 4 30 \ used

/-- One step of the machine that holds the set of used slots. -/
inductive SlotStep (policy : CollisionPolicy) (used : Finset Nat)
    : BusOperation → BusAnswer → Finset Nat → Prop
  | take {slot} (inside : slot ≤ 30) (free : slot ∉ used)
    : SlotStep policy used (.take slot) (.ok none) (insert slot used)
  | takeBeyond {slot} (beyond : 30 < slot)
    : SlotStep policy used (.take slot) (.error (.outOfRange slot)) used
  | takeUsed {slot} (inside : slot ≤ 30) (taken : slot ∈ used)
    : SlotStep policy used (.take slot) (.error (.collision slot)) used
  | claim {slot} (inside : slot ≤ 30)
    : SlotStep policy used (.claim slot) (.ok none) (insert slot used)
  | claimBeyond {slot} (beyond : 30 < slot)
    : SlotStep policy used (.claim slot) (.error (.outOfRange slot)) used
  | automatic {slot} (greatest : (freeSlots used).max = some slot)
    : SlotStep policy used .allocateAutomatic (.ok (some slot)) (insert slot used)
  | exhausted (full : Finset.Icc 4 30 ⊆ used)
    : SlotStep policy used .allocateAutomatic (.error (.exhausted 4 30)) used
  | allocate {address slot} (asked : AsksFor address slot) (free : slot ∉ used)
    : SlotStep policy used (.allocate address) (.ok (some slot)) (insert slot used)
  | collision {address slot} (asked : AsksFor address slot) (taken : slot ∈ used)
    (strict : policy = .strict)
    : SlotStep policy used (.allocate address) (.error (.collision slot)) used
  /-- Under the legacy policy an occupied slot is replaced by any other. -/
  | reassigned {address slot answer after} (asked : AsksFor address slot)
    (taken : slot ∈ used) (legacy : policy = .legacy)
    (other : SlotStep policy used .allocateAutomatic answer after)
    : SlotStep policy used (.allocate address) answer after
  | unasked {address answer after} (none : ∀ slot, ¬AsksFor address slot)
    (any : SlotStep policy used .allocateAutomatic answer after)
    : SlotStep policy used (.allocate address) answer after

/-- A run of the machine, with its answers. -/
inductive SlotRun (policy : CollisionPolicy)
    : Finset Nat → List BusOperation → List BusAnswer → Finset Nat → Prop
  | nil {used} : SlotRun policy used [] [] used
  | cons {used next final operation answer rest answers}
    (first : SlotStep policy used operation answer next)
    (later : SlotRun policy next rest answers final)
    : SlotRun policy used (operation :: rest) (answer :: answers) final

-----------------------------------------------------------------------------------------
-- Used slots of a bus
-----------------------------------------------------------------------------------------

/-- In a descending list, what is found first is the greatest element that is looked for, by
induction on the list.
-/
theorem find?_eq_some_iff_of_descending {slots : List Nat} {wanted : Nat → Bool} {slot : Nat}
    (descending : slots.Pairwise (· > ·))
    : slots.find? wanted = some slot
      ↔ (slot ∈ slots ∧ wanted slot = true)
        ∧ ∀ other ∈ slots, wanted other = true → other ≤ slot := by
  induction slots with
  | nil => simp
  | cons first rest ih =>
      obtain ⟨below, behind⟩ := List.pairwise_cons.mp descending
      cases found : wanted first with
      | true =>
          rw [List.find?_cons_of_pos found]
          constructor
          · intro same
            obtain rfl := Option.some.inj same
            refine ⟨⟨by simp, found⟩, ?_⟩
            intro other member _
            rcases List.mem_cons.mp member with rfl | later
            · exact Nat.le_refl _
            · exact Nat.le_of_lt (below other later)
          · rintro ⟨⟨member, _⟩, greatest⟩
            rcases List.mem_cons.mp member with rfl | later
            · rfl
            · exact absurd (greatest first (by simp) found)
                (Nat.not_le.mpr (below slot later))
      | false =>
          have passed : ¬wanted first = true := by simp [found]
          rw [List.find?_cons_of_neg passed, ih behind]
          grind

namespace RootBus
variable {bus after : RootBus} {slot : Nat} {cause : AllocationError}

@[simp] theorem mem_usedSet : slot ∈ bus.usedSet ↔ bus.isUsed slot = true := by
  rw [usedSet, Finset.mem_filter, Finset.mem_range]
  exact ⟨fun member => member.2, fun used => ⟨lt_slotCount_of_isUsed used, used⟩⟩

theorem usedSet_empty (policy : CollisionPolicy) : ({ policy } : RootBus).usedSet = ∅ := by
  refine Finset.eq_empty_of_forall_notMem fun slot member => ?_
  rw [mem_usedSet, isUsed_empty] at member
  cases member

/-- The set of the occupied slots has no slot beyond the end of the bus. -/
theorem usedSet_subset (bus : RootBus) : bus.usedSet ⊆ Finset.range 31 :=
  Finset.filter_subset _ _

/-- Occupying a slot of the bus inserts it into the set. -/
theorem usedSet_occupy (inside : slot < slotCount)
    : (bus.occupy slot).usedSet = insert slot bus.usedSet := by
  ext other
  rw [mem_usedSet, isUsed_occupy _ _ _ inside, Finset.mem_insert, mem_usedSet, Bool.or_eq_true,
    beq_iff_eq]
  exact or_congr_left eq_comm

/-- The listed slots are the set in ascending order. -/
theorem usedSlots_eq_sort (bus : RootBus) : bus.usedSlots = bus.usedSet.sort := by
  have distinct : bus.usedSlots.Nodup :=
    (pairwise_usedSlots bus).imp fun below => Nat.ne_of_lt below
  have same : bus.usedSlots.toFinset = bus.usedSet := by
    ext slot
    rw [List.mem_toFinset, mem_usedSlots, mem_usedSet]
  have ascending : bus.usedSlots.Pairwise (· ≤ ·) :=
    (pairwise_usedSlots bus).imp fun below => Nat.le_of_lt below
  rw [← same]
  exact ((List.toFinset_sort (· ≤ ·) distinct).mpr ascending).symm

-----------------------------------------------------------------------------------------
-- The operations of a bus
-----------------------------------------------------------------------------------------

theorem automaticSlots_descending : automaticSlots.Pairwise (· > ·) :=
  (List.pairwise_reverse.mpr List.pairwise_lt_range).filter _

theorem mem_freeSlots_usedSet
    : slot ∈ freeSlots bus.usedSet
      ↔ slot ∈ automaticSlots ∧ (!bus.isUsed slot) = true := by
  rw [freeSlots, Finset.mem_sdiff, Finset.mem_Icc, mem_usedSet, mem_automaticSlots]
  simp only [lastReservedSlot, slotCount, Bool.not_eq_true', Bool.not_eq_true]
  exact and_congr_left fun _ => by omega

/-- An automatic slot is the greatest free one. -/
theorem allocateAutomatic_eq_ok_iff
    : bus.allocateAutomatic = .ok (slot, after)
      ↔ (freeSlots bus.usedSet).max = some slot ∧ after = bus.occupy slot := by
  have search : (automaticSlots.find? fun slot => !bus.isUsed slot) = some slot
      ↔ (freeSlots bus.usedSet).max = some slot := by
    rw [find?_eq_some_iff_of_descending automaticSlots_descending]
    constructor
    · rintro ⟨found, greatest⟩
      refine le_antisymm (Finset.max_le ?_)
        (Finset.le_max (mem_freeSlots_usedSet.mpr found))
      intro other member
      obtain ⟨listed, free⟩ := mem_freeSlots_usedSet.mp member
      exact WithBot.coe_le_coe.mpr (greatest other listed free)
    · intro greatest
      refine ⟨mem_freeSlots_usedSet.mp (Finset.mem_of_max greatest), ?_⟩
      intro other listed free
      exact Finset.le_max_of_eq (mem_freeSlots_usedSet.mpr ⟨listed, free⟩) greatest
  rw [← search, allocateAutomatic]
  cases automaticSlots.find? fun slot => !bus.isUsed slot with
  | none => simp
  | some found => grind

/-- No automatic slot is left exactly if all of them are used. -/
theorem allocateAutomatic_eq_error_iff
    : bus.allocateAutomatic = .error cause
      ↔ Finset.Icc 4 30 ⊆ bus.usedSet ∧ cause = .exhausted 4 30 := by
  have search : (automaticSlots.find? fun slot => !bus.isUsed slot) = none
      ↔ Finset.Icc 4 30 ⊆ bus.usedSet := by
    rw [List.find?_eq_none, Finset.subset_iff]
    simp only [mem_automaticSlots, Finset.mem_Icc, mem_usedSet, lastReservedSlot, slotCount,
      Bool.not_eq_true', Bool.not_eq_false]
    exact ⟨fun full slot range => full slot (by omega),
      fun full slot range => full (by omega)⟩
  rw [← search, allocateAutomatic]
  cases automaticSlots.find? fun slot => !bus.isUsed slot with
  | none => simp [lastReservedSlot, slotCount, eq_comm]
  | some found => simp

theorem requestedSlot?_eq_some_iff {address : String}
    : requestedSlot? address = some slot ↔ AsksFor address slot := by
  rw [requestedSlot?, Option.filter_eq_some_iff, AsksFor]
  simp only [Bool.and_eq_true, decide_eq_true_eq]
  exact and_congr_right fun _ => and_congr_right fun _ => Nat.lt_succ_iff

/-- Without an address that asks for a slot, an allocation takes any automatic slot. -/
theorem allocate_of_unasked {address : String} (none : ∀ slot, ¬AsksFor address slot)
    : bus.allocate address = bus.allocateAutomatic := by
  have unasked : requestedSlot? address = Option.none := by
    refine Option.eq_none_iff_forall_ne_some.mpr fun slot asked => ?_
    exact none slot (requestedSlot?_eq_some_iff.mp asked)
  rw [allocate, unasked]

theorem allocate_of_free {address : String} (asked : AsksFor address slot)
    (free : slot ∉ bus.usedSet)
    : bus.allocate address = .ok (slot, bus.occupy slot) := by
  rw [mem_usedSet] at free
  rw [allocate, requestedSlot?_eq_some_iff.mpr asked]
  simp only [free, if_false, Bool.false_eq_true]

theorem allocate_of_taken {address : String} (asked : AsksFor address slot)
    (taken : slot ∈ bus.usedSet)
    : bus.allocate address
      = match bus.policy with
        | .strict => .error (.collision slot)
        | .legacy => bus.allocateAutomatic := by
  rw [mem_usedSet] at taken
  rw [allocate, requestedSlot?_eq_some_iff.mpr asked]
  exact if_pos taken

theorem slotStep_automatic (bus : RootBus)
    : SlotStep bus.policy bus.usedSet .allocateAutomatic (bus.perform .allocateAutomatic).1
        (bus.perform .allocateAutomatic).2.usedSet := by
  cases allocated : bus.allocateAutomatic with
  | error cause =>
      obtain ⟨full, rfl⟩ := allocateAutomatic_eq_error_iff.mp allocated
      simp only [perform, attempt, allocated, Except.map]
      exact .exhausted full
  | ok placed =>
      obtain ⟨slot, after⟩ := placed
      obtain ⟨greatest, rfl⟩ := allocateAutomatic_eq_ok_iff.mp allocated
      have inside := (allocateAutomatic_ok allocated).2.1.2
      simp only [perform, attempt, allocated, Except.map, usedSet_occupy inside]
      exact .automatic greatest

theorem slotStep_take (bus : RootBus) (slot : Nat)
    : SlotStep bus.policy bus.usedSet (.take slot) (bus.perform (.take slot)).1
        (bus.perform (.take slot)).2.usedSet := by
  by_cases inside : slot ≤ 30
  · have below : ¬slotCount ≤ slot := by
      simp only [slotCount]
      omega
    by_cases used : slot ∈ bus.usedSet
    · have own := mem_usedSet.mp used
      simp only [perform, attempt, RootBus.take, below, own, if_true, if_false, Except.map]
      exact .takeUsed inside used
    · have own : bus.isUsed slot = false := by simpa using used
      simp only [perform, attempt, RootBus.take, below, own, if_false, Except.map,
        Bool.false_eq_true, usedSet_occupy (Nat.lt_succ_of_le inside)]
      exact .take inside used
  · have beyond : slotCount ≤ slot := by
      simp only [slotCount]
      omega
    simp only [perform, attempt, RootBus.take, beyond, if_true, Except.map]
    exact .takeBeyond (Nat.not_le.mp inside)

theorem slotStep_claim (bus : RootBus) (slot : Nat)
    : SlotStep bus.policy bus.usedSet (.claim slot) (bus.perform (.claim slot)).1
        (bus.perform (.claim slot)).2.usedSet := by
  by_cases inside : slot ≤ 30
  · have claimed : bus.claim slot = .ok (bus.occupy slot) :=
      claim_eq_ok_iff.mpr ⟨Nat.lt_succ_of_le inside, rfl⟩
    simp only [perform, attempt, claimed, Except.map,
      usedSet_occupy (Nat.lt_succ_of_le inside)]
    exact .claim inside
  · have failed : bus.claim slot = .error (.outOfRange slot) :=
      claim_eq_error_iff.mpr ⟨Nat.not_le.mp inside, rfl⟩
    simp only [perform, attempt, failed, Except.map]
    exact .claimBeyond (Nat.not_le.mp inside)

/-- An allocation with an address is a step of the machine, by what the address asks for and
whether it is free.
-/
theorem slotStep_allocate (bus : RootBus) (address : String)
    : SlotStep bus.policy bus.usedSet (.allocate address) (bus.perform (.allocate address)).1
        (bus.perform (.allocate address)).2.usedSet := by
  have automatic := bus.slotStep_automatic
  by_cases asks : ∃ slot, AsksFor address slot
  · obtain ⟨slot, asked⟩ := asks
    by_cases used : slot ∈ bus.usedSet
    · have allocated := allocate_of_taken asked used
      cases policy : bus.policy with
      | strict =>
          rw [policy] at allocated
          simp only [perform, attempt, allocated, Except.map]
          exact .collision asked used rfl
      | legacy =>
          have same : bus.perform (.allocate address) = bus.perform .allocateAutomatic := by
            rw [policy] at allocated
            simp only [perform, attempt, allocated]
          rw [policy] at automatic
          rw [same]
          exact .reassigned asked used rfl automatic
    · have inside : slot < slotCount := Nat.lt_succ_of_le asked.2.2
      simp only [perform, attempt, allocate_of_free asked used, Except.map,
        usedSet_occupy inside]
      exact .allocate asked used
  · have none : ∀ slot, ¬AsksFor address slot := not_exists.mp asks
    have same : bus.perform (.allocate address) = bus.perform .allocateAutomatic := by
      simp only [perform, attempt, allocate_of_unasked none]
    rw [same]
    exact .unasked none automatic

/-- What a bus does for an operation is a step of the machine, by the kind of operation. -/
theorem slotStep_perform (bus : RootBus) (operation : BusOperation)
    : SlotStep bus.policy bus.usedSet operation (bus.perform operation).1
        (bus.perform operation).2.usedSet := by
  cases operation with
  | allocate address => exact bus.slotStep_allocate address
  | allocateAutomatic => exact bus.slotStep_automatic
  | take slot => exact bus.slotStep_take slot
  | claim slot => exact bus.slotStep_claim slot

/-- What an operation does to a bus is to occupy a slot, by the kind of operation. -/
theorem occupy_of_attempt {operation : BusOperation} {given : Option Nat}
    (h : bus.attempt operation = .ok (given, after))
    : ∃ slot, after = bus.occupy slot := by
  cases operation with
  | allocate address =>
      cases allocated : bus.allocate address with
      | error cause => simp [attempt, allocated, Except.map] at h
      | ok placed =>
          simp only [attempt, allocated, Except.map, Except.ok.injEq, Prod.mk.injEq] at h
          exact ⟨placed.1, h.2.symm.trans (allocate_ok allocated).2.2⟩
  | allocateAutomatic =>
      cases allocated : bus.allocateAutomatic with
      | error cause => simp [attempt, allocated, Except.map] at h
      | ok placed =>
          simp only [attempt, allocated, Except.map, Except.ok.injEq, Prod.mk.injEq] at h
          exact ⟨placed.1, h.2.symm.trans (allocateAutomatic_ok allocated).2.2⟩
  | take slot =>
      cases taken : bus.take slot with
      | error cause => simp [attempt, taken, Except.map] at h
      | ok own =>
          simp only [attempt, taken, Except.map, Except.ok.injEq, Prod.mk.injEq] at h
          have occupied : own = bus.occupy slot := by
            unfold RootBus.take at taken
            split at taken
            · cases taken
            · split at taken
              · cases taken
              · exact (Except.ok.inj taken).symm
          exact ⟨slot, h.2.symm.trans occupied⟩
  | claim slot =>
      cases claimed : bus.claim slot with
      | error cause => simp [attempt, claimed, Except.map] at h
      | ok own =>
          simp only [attempt, claimed, Except.map, Except.ok.injEq, Prod.mk.injEq] at h
          exact ⟨slot, h.2.symm.trans (claim_eq_ok_iff.mp claimed).2⟩

theorem policy_perform (bus : RootBus) (operation : BusOperation)
    : (bus.perform operation).2.policy = bus.policy := by
  rw [perform]
  cases attempted : bus.attempt operation with
  | error cause => rfl
  | ok result =>
      obtain ⟨slot, occupied⟩ := occupy_of_attempt attempted
      simp only [occupied, occupy]

/-- An operation that fails leaves the bus as it is. -/
theorem perform_of_error {operation : BusOperation}
    (failed : (bus.perform operation).1 = .error cause)
    : (bus.perform operation).2 = bus := by
  rw [perform] at failed ⊢
  cases attempted : bus.attempt operation with
  | error own => rfl
  | ok result =>
      rw [attempted] at failed
      cases failed

end RootBus

-----------------------------------------------------------------------------------------
-- Steps of the machine
-----------------------------------------------------------------------------------------

theorem AsksFor.unique {address : String} {slot other : Nat} (h : AsksFor address slot)
    (again : AsksFor address other)
    : slot = other :=
  Option.some.inj (h.1.symm.trans again.1)

namespace SlotStep
variable {policy : CollisionPolicy} {used after other : Finset Nat}
  {operation : BusOperation} {answer again : BusAnswer}

/-- The machine has one way to give out any slot: there is a greatest free one or none. -/
theorem automatic_unique (h : SlotStep policy used .allocateAutomatic answer after)
    (twice : SlotStep policy used .allocateAutomatic again other)
    : answer = again ∧ after = other := by
  have apart {slot : Nat} (greatest : (freeSlots used).max = some slot)
      (full : Finset.Icc 4 30 ⊆ used) : False := by
    have member := Finset.mem_sdiff.mp (Finset.mem_of_max greatest)
    exact member.2 (full member.1)
  cases h with
  | automatic greatest =>
      cases twice with
      | automatic same =>
          obtain rfl := Option.some.inj (greatest.symm.trans same)
          exact ⟨rfl, rfl⟩
      | exhausted full => exact (apart greatest full).elim
  | exhausted full =>
      cases twice with
      | automatic greatest => exact (apart greatest full).elim
      | exhausted _ => exact ⟨rfl, rfl⟩

/-- The machine has one answer to an operation, by the kind of step. -/
theorem unique (h : SlotStep policy used operation answer after)
    (twice : SlotStep policy used operation again other)
    : answer = again ∧ after = other := by
  cases h with
  | take inside free =>
      cases twice with
      | take => exact ⟨rfl, rfl⟩
      | takeBeyond beyond => omega
      | takeUsed _ taken => exact absurd taken free
  | takeBeyond beyond =>
      cases twice with
      | takeBeyond => exact ⟨rfl, rfl⟩
      | take inside | takeUsed inside => omega
  | takeUsed inside taken =>
      cases twice with
      | takeUsed => exact ⟨rfl, rfl⟩
      | takeBeyond beyond => omega
      | take _ free => exact absurd taken free
  | claim inside =>
      cases twice with
      | claim => exact ⟨rfl, rfl⟩
      | claimBeyond beyond => omega
  | claimBeyond beyond =>
      cases twice with
      | claimBeyond => exact ⟨rfl, rfl⟩
      | claim inside => omega
  | automatic greatest => exact automatic_unique (.automatic greatest) twice
  | exhausted full => exact automatic_unique (.exhausted full) twice
  | allocate asked free =>
      cases twice with
      | allocate same =>
          obtain rfl := asked.unique same
          exact ⟨rfl, rfl⟩
      | collision same taken | reassigned same taken =>
          obtain rfl := asked.unique same
          exact absurd taken free
      | unasked none => exact absurd asked (none _)
  | collision asked taken strict =>
      cases twice with
      | allocate same free =>
          obtain rfl := asked.unique same
          exact absurd taken free
      | collision same =>
          obtain rfl := asked.unique same
          exact ⟨rfl, rfl⟩
      | reassigned _ _ legacy =>
          rw [strict] at legacy
          cases legacy
      | unasked none => exact absurd asked (none _)
  | reassigned asked taken legacy any =>
      cases twice with
      | allocate same free =>
          obtain rfl := asked.unique same
          exact absurd taken free
      | collision _ _ strict =>
          rw [strict] at legacy
          cases legacy
      | reassigned _ _ _ same => exact automatic_unique any same
      | unasked none => exact absurd asked (none _)
  | unasked none any =>
      cases twice with
      | allocate asked | collision asked | reassigned asked => exact absurd asked (none _)
      | unasked _ same => exact automatic_unique any same

/-- A step that succeeds inserts one slot, and gives out no other; only a claim may be repeated,
by the kind of step.
-/
theorem used_of_ok {given : Option Nat} (h : SlotStep policy used operation (.ok given) after)
    : (∃ slot, slot ∉ used ∧ after = insert slot used ∧ ∀ own ∈ given, own = slot)
      ∨ ∃ slot, operation = .claim slot ∧ slot ∈ used ∧ after = used := by
  have greatest_free {slot : Nat} (greatest : (freeSlots used).max = some slot) : slot ∉ used :=
    (Finset.mem_sdiff.mp (Finset.mem_of_max greatest)).2
  cases h with
  | @take slot inside free => exact Or.inl ⟨slot, free, rfl, by simp⟩
  | @claim slot inside =>
      by_cases repeated : slot ∈ used
      · exact Or.inr ⟨slot, rfl, repeated, Finset.insert_eq_of_mem repeated⟩
      · exact Or.inl ⟨slot, repeated, rfl, by simp⟩
  | @automatic slot greatest => exact Or.inl ⟨slot, greatest_free greatest, rfl, by simp⟩
  | @allocate address slot asked free => exact Or.inl ⟨slot, free, rfl, by simp⟩
  | reassigned _ _ _ any | unasked _ any =>
      cases any with
      | @automatic slot greatest => exact Or.inl ⟨slot, greatest_free greatest, rfl, by simp⟩

/-- No allocation gives out the first slot, by the kind of step. -/
theorem positive_of_allocate {address : String} {slot : Nat}
    (h : SlotStep policy used (.allocate address) (.ok (some slot)) after)
    : 1 ≤ slot := by
  have automatic (any : SlotStep policy used .allocateAutomatic (.ok (some slot)) after)
      : 1 ≤ slot := by
    cases any with
    | automatic greatest =>
        have member := (Finset.mem_sdiff.mp (Finset.mem_of_max greatest)).1
        exact Nat.le_trans (by decide) (Finset.mem_Icc.mp member).1
  cases h with
  | allocate asked => exact asked.2.1
  | reassigned _ _ _ any | unasked _ any => exact automatic any

end SlotStep

-----------------------------------------------------------------------------------------
-- Sequences of operations
-----------------------------------------------------------------------------------------

namespace RootBus

/-- A bus goes through a sequence of operations exactly as the machine does from the same set, by
induction on the sequence: the machine has one answer to each operation, and that of the bus is
one.
-/
theorem slotRun_iff {bus : RootBus} {operations : List BusOperation}
    {answers : List BusAnswer} {final : Finset Nat}
    : SlotRun bus.policy bus.usedSet operations answers final
      ↔ (bus.trace operations).map BusStep.answer = answers
        ∧ (bus.performAll operations).usedSet = final := by
  induction operations generalizing bus answers with
  | nil =>
      constructor
      · intro run
        cases run
        exact ⟨rfl, rfl⟩
      · rintro ⟨rfl, rfl⟩
        exact .nil
  | cons operation rest ih =>
      have step := bus.slotStep_perform operation
      have behind := @ih (bus.perform operation).2
      rw [policy_perform] at behind
      constructor
      · intro run
        cases run with
        | cons first later =>
            obtain ⟨rfl, rfl⟩ := first.unique step
            obtain ⟨rfl, rfl⟩ := behind.mp later
            exact ⟨rfl, rfl⟩
      · rintro ⟨rfl, rfl⟩
        exact .cons step (behind.mpr ⟨rfl, rfl⟩)

/-- Every step of a trace is one operation performed on a bus of the same policy, by induction on
the sequence.
-/
theorem perform_of_mem_trace {bus : RootBus} {operations : List BusOperation} {step : BusStep}
    (member : step ∈ bus.trace operations)
    : step.before.policy = bus.policy
      ∧ step.before.perform step.operation = (step.answer, step.after) := by
  induction operations generalizing bus with
  | nil => cases member
  | cons operation rest ih =>
      rcases List.mem_cons.mp member with rfl | behind
      · exact ⟨rfl, rfl⟩
      · obtain ⟨policy, performed⟩ := ih behind
        exact ⟨policy.trans (bus.policy_perform operation), performed⟩

end RootBus

/-- How a step of a bus relates to a step of the machine. -/
structure BusStep.Refines (policy : CollisionPolicy) (step : BusStep) : Prop where
  follows
    : SlotStep policy step.before.usedSet step.operation step.answer step.after.usedSet
  within : step.after.usedSet ⊆ Finset.range 31
  /-- A failure leaves the whole bus as it is. -/
  unchanged : ∀ cause, step.answer = .error cause → step.after = step.before
  /-- A success uses one further slot, unless it repeats a claim. -/
  adds
    : ∀ given,
        step.answer = .ok given
        → (∃ slot,
            slot ∉ step.before.usedSet
            ∧ step.after.usedSet = insert slot step.before.usedSet
            ∧ ∀ own ∈ given, own = slot)
          ∨ ∃ slot,
              step.operation = .claim slot
              ∧ slot ∈ step.before.usedSet
              ∧ step.after.usedSet = step.before.usedSet
  positive
    : ∀ address slot,
        step.operation = .allocate address → step.answer = .ok (some slot) → slot ≠ 0
  listed : step.after.usedSlots = step.after.usedSet.sort

/-- From the empty bus, every sequence of operations is a run of the machine from the empty set,
and the only one.
-/
structure BusRefines (policy : CollisionPolicy) (operations : List BusOperation) : Prop where
  run
    : ∀ answers final,
        SlotRun policy ∅ operations answers final
          ↔ (({ policy } : RootBus).trace operations).map BusStep.answer = answers
            ∧ (({ policy } : RootBus).performAll operations).usedSet = final
  steps : ∀ step ∈ ({ policy } : RootBus).trace operations, step.Refines policy

/-- The root bus refines the machine over a set of used slots, whatever it is asked for. -/
theorem bus_refines_slotMachine (policy : CollisionPolicy) (operations : List BusOperation)
    : BusRefines policy operations := by
  constructor
  case run =>
    intro answers final
    rw [← RootBus.slotRun_iff, RootBus.usedSet_empty]
  case steps =>
    intro step member
    obtain ⟨same, performed⟩ := RootBus.perform_of_mem_trace member
    have follows := step.before.slotStep_perform step.operation
    rw [performed, same] at follows
    constructor
    case follows => exact follows
    case within => exact step.after.usedSet_subset
    case unchanged =>
      intro cause failed
      have kept : (step.before.perform step.operation).2 = step.before :=
        RootBus.perform_of_error (by rw [performed]; exact failed)
      rw [performed] at kept
      exact kept
    case adds =>
      intro given succeeded
      rw [succeeded] at follows
      exact follows.used_of_ok
    case positive =>
      intro address slot allocating succeeded
      rw [succeeded, allocating] at follows
      exact Nat.ne_of_gt follows.positive_of_allocate
    case listed => exact step.after.usedSlots_eq_sort

end GuestLaunch
