import GuestLaunch.Proofs.Indices.FollowingIndex

/-!
Histories of an index registry. Each answer is a matter of what the calls before it have
recorded in the same category, so neither a call that fails nor a call on another category
makes a difference to what is answered later.
-/

namespace GuestLaunch

/-- A call on an index registry. -/
inductive IndexCall where
  | next (category : String)
  | reserve (category : String) (index : UInt32)
  | contains (category : String) (index : UInt32)
deriving DecidableEq, Repr

/-- The category that a call is about. -/
def IndexCall.category : IndexCall → String
  | .next category | .reserve category _ | .contains category _ => category

/-- What a registry answers to a call. -/
inductive IndexAnswer where
  | given (index : UInt32)
  | reserved
  | found (present : Bool)
  | failed (cause : AllocationError)
deriving DecidableEq, Repr

/-- A call of a history, with the answer to it. -/
structure IndexStep where
  call : IndexCall
  answer : IndexAnswer
deriving DecidableEq, Repr

/-- The index that a step records, with its category: one that is given out, or one that is
reserved with success.
-/
def IndexStep.recorded? : IndexStep → Option (String × UInt32)
  | ⟨.next category, .given index⟩ => some (category, index)
  | ⟨.reserve category index, .reserved⟩ => some (category, index)
  | _ => none

/-- The indices that steps record, each with its category. -/
def recordedBy (steps : List IndexStep) : List (String × UInt32) :=
  steps.filterMap IndexStep.recorded?

/-- The indices that steps record in a category. -/
def recordedIn (category : String) (steps : List IndexStep) : List UInt32 :=
  ((recordedBy steps).filter (·.1 == category)).map (·.2)

@[simp] theorem mem_recordedIn {category : String} {steps : List IndexStep} {index : UInt32}
    : index ∈ recordedIn category steps ↔ (category, index) ∈ recordedBy steps := by
  simp [recordedIn]

namespace IndexRegistry

/-- Performs a call. One that fails leaves the registry as it is. -/
def perform (registry : IndexRegistry) : IndexCall → IndexAnswer × IndexRegistry
  | .next category =>
      match registry.next category with
      | .ok (index, after) => (.given index, after)
      | .error cause => (.failed cause, registry)
  | .reserve category index =>
      match registry.reserve category index with
      | .ok after => (.reserved, after)
      | .error cause => (.failed cause, registry)
  | .contains category index => (.found (registry.contains category index), registry)

/-- The registry after a sequence of calls. -/
def performAll (registry : IndexRegistry) (calls : List IndexCall) : IndexRegistry :=
  calls.foldl (fun current call => (current.perform call).2) registry

/-- The calls of a sequence, each with the answer to it. -/
def history (registry : IndexRegistry) : List IndexCall → List IndexStep
  | [] => []
  | call :: rest =>
      { call, answer := (registry.perform call).1 } :: history (registry.perform call).2 rest

end IndexRegistry

-----------------------------------------------------------------------------------------
-- Splits of a history
-----------------------------------------------------------------------------------------

namespace IndexRegistry
variable {registry : IndexRegistry}

theorem history_calls (registry : IndexRegistry) (calls : List IndexCall)
    : (registry.history calls).map IndexStep.call = calls := by
  induction calls generalizing registry with
  | nil => rfl
  | cons call rest ih => rw [history, List.map_cons, ih]

theorem history_append (registry : IndexRegistry) (first second : List IndexCall)
    : registry.history (first ++ second)
      = registry.history first ++ (registry.performAll first).history second := by
  induction first generalizing registry with
  | nil => rfl
  | cons call rest ih => rw [List.cons_append, history, ih, history, List.cons_append]; rfl

/-- A step of a history with the registry before it: the steps before and after are histories
of their own calls.
-/
structure SplitAt (registry : IndexRegistry) (earlier : List IndexStep) (step : IndexStep)
    (later : List IndexStep) (before : IndexRegistry) : Prop where
  reached : before = registry.performAll (earlier.map IndexStep.call)
  earlier_eq : earlier = registry.history (earlier.map IndexStep.call)
  answer_eq : step.answer = (before.perform step.call).1
  later_eq : later = (before.perform step.call).2.history (later.map IndexStep.call)

/-- Every split of a history has a registry before the step, by induction on the earlier steps.
-/
theorem exists_splitAt {calls : List IndexCall} {earlier later : List IndexStep}
    {step : IndexStep} (split : registry.history calls = earlier ++ step :: later)
    : ∃ before, SplitAt registry earlier step later before := by
  induction earlier generalizing registry calls with
  | nil =>
      cases calls with
      | nil => cases split
      | cons call rest =>
          obtain ⟨rfl, rfl⟩ := List.cons.inj split
          refine ⟨registry, rfl, rfl, rfl, ?_⟩
          rw [history_calls]
  | cons first middle ih =>
      cases calls with
      | nil => cases split
      | cons call rest =>
          obtain ⟨rfl, behind⟩ := List.cons.inj split
          obtain ⟨before, reached, earlier_eq, answer_eq, later_eq⟩ := ih behind
          refine ⟨before, reached, ?_, answer_eq, later_eq⟩
          rw [List.map_cons, history, ← earlier_eq]

-----------------------------------------------------------------------------------------
-- What one call does
-----------------------------------------------------------------------------------------

/-- All that a call can do: it records the index that its step says in its own category, which
has a name, or it leaves the registry as it is.
-/
theorem perform_cases (registry : IndexRegistry) (call : IndexCall)
    : (∃ index,
        IndexStep.recorded? ⟨call, (registry.perform call).1⟩ = some (call.category, index)
        ∧ call.category ≠ ""
        ∧ (registry.perform call).2 = registry.insert call.category index)
      ∨ (IndexStep.recorded? ⟨call, (registry.perform call).1⟩ = none
        ∧ (registry.perform call).2 = registry) := by
  cases call with
  | next category =>
      cases given : registry.next category with
      | error cause =>
          rw [perform, given]
          exact Or.inr ⟨rfl, rfl⟩
      | ok placed =>
          obtain ⟨index, after⟩ := placed
          have named : category ≠ "" := by
            rintro rfl
            cases given
          obtain ⟨_, rfl⟩ := next_ok given
          rw [perform, given]
          exact Or.inl ⟨index, rfl, named, rfl⟩
  | reserve category index =>
      rw [perform, reserve]
      by_cases unnamed : category.isEmpty
      · rw [if_pos unnamed]
        exact Or.inr ⟨rfl, rfl⟩
      · by_cases taken : registry.contains category index
        · rw [if_neg unnamed, if_pos taken]
          exact Or.inr ⟨rfl, rfl⟩
        · rw [if_neg unnamed, if_neg taken]
          exact Or.inl ⟨index, rfl, mt String.isEmpty_iff.mpr unnamed, rfl⟩
  | contains category index => exact Or.inr ⟨rfl, rfl⟩

/-- A call records the index that its step says, and nothing else. -/
theorem contains_perform (call : IndexCall) (category : String) (index : UInt32)
    : (registry.perform call).2.contains category index = true
      ↔ IndexStep.recorded? ⟨call, (registry.perform call).1⟩ = some (category, index)
        ∨ registry.contains category index = true := by
  rcases registry.perform_cases call with ⟨own, noted, _, recorded⟩ | ⟨noted, kept⟩
  · rw [noted, recorded, contains_insert, Option.some.injEq, Prod.mk.injEq]
    simp only [@eq_comm String, @eq_comm UInt32]
  · simp [noted, kept]

/-- A call that fails leaves the registry as it is, as its step records nothing. -/
theorem perform_of_failed {call : IndexCall} {cause : AllocationError}
    (failed : (registry.perform call).1 = .failed cause)
    : (registry.perform call).2 = registry := by
  rcases registry.perform_cases call with ⟨_, noted, _⟩ | ⟨_, kept⟩
  · rw [failed] at noted
    cases call <;> cases noted
  · exact kept

/-- With room in a category that has a name, the next index is the number behind the recorded
ones.
-/
theorem perform_next {category : String} (named : category ≠ "")
    (room : registry.contains category lastIndex = false)
    : ∃ index,
        (registry.perform (.next category)).1 = .given index
        ∧ index.toNat = numberBehind (registry.indices category) := by
  have unblocked : registry.following? category ≠ none := by
    rw [Ne, following?_eq_none_iff, room]
    exact Bool.false_ne_true
  obtain ⟨index, following⟩ := Option.ne_none_iff_exists'.mp unblocked
  have given : registry.next category = .ok (index, registry.insert category index) := by
    simp [next, named, following]
  refine ⟨index, ?_, toNat_of_following? following⟩
  rw [perform, given]

/-- An index that is recorded in the category is refused, and any other one is recorded, if the
category has a name.
-/
theorem perform_reserve (registry : IndexRegistry) (category : String) (index : UInt32)
    : (registry.perform (.reserve category index)).1
      = if category = "" then .failed .emptyCategory
        else if registry.contains category index then .failed (.indexTaken category index)
        else .reserved := by
  rw [perform, reserve]
  by_cases unnamed : category = ""
  · rw [if_pos (String.isEmpty_iff.mpr unnamed), if_pos unnamed]
  · rw [if_neg (mt String.isEmpty_iff.mp unnamed), if_neg unnamed]
    by_cases taken : registry.contains category index
    · rw [if_pos taken, if_pos taken]
    · rw [if_neg taken, if_neg taken]

/-- Only a call that is to record an index fails for want of a category, by the kind of call.
-/
theorem perform_eq_emptyCategory_iff {call : IndexCall}
    : (registry.perform call).1 = .failed .emptyCategory
      ↔ call = .next "" ∨ ∃ index, call = .reserve "" index := by
  cases call with
  | next own =>
      by_cases named : own = ""
      · subst named
        simp [perform, next]
      · cases following : registry.following? own with
        | none => simp [perform, next, named, following]
        | some index => simp [perform, next, named, following]
  | reserve own number =>
      rw [perform_reserve]
      by_cases named : own = ""
      · simp [named]
      · by_cases taken : registry.contains own number
        · simp [named, taken]
        · simp [named, taken]
  | contains own number => simp [perform]

-----------------------------------------------------------------------------------------
-- What a sequence of calls records
-----------------------------------------------------------------------------------------

/-- A registry holds what its history has recorded, besides what it held before, by induction
on the calls.
-/
theorem contains_performAll (calls : List IndexCall) (category : String) (index : UInt32)
    : (registry.performAll calls).contains category index = true
      ↔ (category, index) ∈ recordedBy (registry.history calls)
        ∨ registry.contains category index = true := by
  induction calls generalizing registry with
  | nil => simp [performAll, history, recordedBy]
  | cons call rest ih =>
      have behind := @ih (registry.perform call).2
      rw [contains_perform] at behind
      rw [performAll, List.foldl_cons]
      refine behind.trans ?_
      rw [recordedBy, recordedBy, history, List.mem_filterMap, List.mem_filterMap]
      simp only [List.mem_cons, exists_eq_or_imp]
      rw [or_left_comm, or_assoc]

/-- What a history records has a category with a name, by induction on the calls. -/
theorem named_of_recorded {calls : List IndexCall} {category : String} {index : UInt32}
    (recorded : (category, index) ∈ recordedBy (registry.history calls))
    : category ≠ "" := by
  induction calls generalizing registry with
  | nil => cases recorded
  | cons call rest ih =>
      obtain ⟨step, member, noted⟩ := List.mem_filterMap.mp recorded
      rcases List.mem_cons.mp member with rfl | behind
      · rcases registry.perform_cases call with ⟨own, same, named, _⟩ | ⟨none, _⟩
        · rw [noted] at same
          cases same
          exact named
        · rw [noted] at none
          cases none
      · exact ih (List.mem_filterMap.mpr ⟨step, behind, noted⟩)

theorem SplitAt.contains_iff {earlier later : List IndexStep} {step : IndexStep}
    {before : IndexRegistry} (h : SplitAt {} earlier step later before) (category : String)
    (index : UInt32)
    : before.contains category index = true ↔ (category, index) ∈ recordedBy earlier := by
  rw [h.reached, contains_performAll, ← h.earlier_eq]
  exact or_iff_left Bool.false_ne_true

end IndexRegistry

/-- An index that follows the recorded ones of a category. -/
structure FollowsRecorded (recorded : List UInt32) (index : UInt32) : Prop where
  fresh : index ∉ recorded
  greater : ∀ other ∈ recorded, other < index
  first : index = 0 ↔ recorded = []
  behind
    : recorded ≠ []
      → ∃ largest ∈ recorded,
          (∀ other ∈ recorded, other ≤ largest) ∧ index.toNat = largest.toNat + 1

/-- The number behind the recorded indices follows them: they all stand before it, and the
largest one directly.
-/
theorem FollowsRecorded.of_toNat {indices recorded : List UInt32} {index : UInt32}
    (same : ∀ other, other ∈ indices ↔ other ∈ recorded)
    (number : index.toNat = numberBehind indices)
    : FollowsRecorded recorded index := by
  have greater : ∀ other ∈ recorded, other < index := by
    intro other member
    rw [UInt32.lt_iff_toNat_lt, number]
    exact lt_numberBehind ((same other).mpr member)
  have behind
      : recorded ≠ []
        → ∃ largest ∈ recorded,
            (∀ other ∈ recorded, other ≤ largest) ∧ index.toNat = largest.toNat + 1 := by
    intro occupied
    have listed : indices ≠ [] := by
      obtain ⟨other, member⟩ := List.exists_mem_of_ne_nil _ occupied
      exact List.ne_nil_of_mem ((same other).mpr member)
    obtain ⟨largest, member, successor⟩ := exists_numberBehind_eq listed
    refine ⟨largest, (same largest).mp member, ?_, number.trans successor⟩
    intro other recorded
    have below := lt_numberBehind ((same other).mpr recorded)
    exact UInt32.le_iff_toNat_le.mpr (by omega)
  refine ⟨fun member => UInt32.lt_irrefl _ (greater index member), greater, ?_, behind⟩
  constructor
  · intro zero
    cases recorded with
    | nil => rfl
    | cons other rest =>
        obtain ⟨largest, _, _, successor⟩ := behind (List.cons_ne_nil other rest)
        rw [zero] at successor
        cases successor
  · intro empty
    have unlisted : indices = [] :=
      List.eq_nil_iff_forall_not_mem.mpr fun other member => by
        simpa [empty] using (same other).mp member
    exact UInt32.toNat_inj.mp (by rw [number, unlisted]; rfl)

-----------------------------------------------------------------------------------------
-- Categories apart from each other
-----------------------------------------------------------------------------------------

namespace IndexRegistry
variable {registry : IndexRegistry} {removed : String}

/-- A registry without the indices of a category. -/
def without (registry : IndexRegistry) (removed : String) : IndexRegistry :=
  { taken := registry.taken.filter (·.1 != removed) }

theorem without_insert_self (index : UInt32)
    : (registry.insert removed index).without removed = registry.without removed := by
  simp [without, insert]

theorem without_insert_of_ne {category : String} (other : category ≠ removed) (index : UInt32)
    : (registry.insert category index).without removed
      = (registry.without removed).insert category index := by
  simp [without, insert, other]

theorem contains_without {category : String} (other : category ≠ removed) (index : UInt32)
    : (registry.without removed).contains category index
      = registry.contains category index := by
  simp [without, contains, other]

theorem indices_without {category : String} (other : category ≠ removed)
    : (registry.without removed).indices category = registry.indices category := by
  rw [indices, indices, without, List.filter_filter]
  congr 1
  refine List.filter_congr fun entry _ => ?_
  by_cases own : entry.1 = category
  · simp [own, other]
  · simp [own]

/-- A call on the category that is left out makes no difference to the rest. -/
theorem without_perform_self {call : IndexCall} (own : call.category = removed)
    : (registry.perform call).2.without removed = registry.without removed := by
  subst own
  rcases registry.perform_cases call with ⟨index, _, _, recorded⟩ | ⟨_, kept⟩
  · rw [recorded, without_insert_self]
  · rw [kept]

/-- A call on another category is answered alike without the category that is left out, and
does the same to the rest.
-/
theorem perform_without {call : IndexCall} (other : call.category ≠ removed)
    : (registry.without removed).perform call
      = ((registry.perform call).1, (registry.perform call).2.without removed) := by
  cases call with
  | next category =>
      replace other : category ≠ removed := other
      have same : (registry.without removed).following? category
          = registry.following? category := by
        rw [following?, following?, indices_without other]
      simp only [perform, next, same]
      by_cases unnamed : category.isEmpty
      · simp only [unnamed, if_true]
      · cases registry.following? category with
        | none => simp only [unnamed, if_false, Bool.false_eq_true]
        | some index =>
            simp only [unnamed, if_false, Bool.false_eq_true, without_insert_of_ne other]
  | reserve category index =>
      replace other : category ≠ removed := other
      simp only [perform, reserve, contains_without other]
      by_cases unnamed : category.isEmpty
      · simp only [unnamed, if_true]
      · by_cases taken : registry.contains category index
        · simp only [unnamed, taken, if_true, if_false, Bool.false_eq_true]
        · simp only [unnamed, taken, if_false, Bool.false_eq_true,
            without_insert_of_ne other]
  | contains category index =>
      replace other : category ≠ removed := other
      simp only [perform, contains_without other]

/-- The history of the calls on the other categories is what the whole history says of them, by
induction on the calls.
-/
theorem history_without (registry : IndexRegistry) (removed : String) (calls : List IndexCall)
    : (registry.without removed).history (calls.filter (·.category != removed))
      = (registry.history calls).filter (·.call.category != removed) := by
  induction calls generalizing registry with
  | nil => rfl
  | cons call rest ih =>
      by_cases own : call.category = removed
      · rw [List.filter_cons_of_neg (by simp [own]), history,
          List.filter_cons_of_neg (by simp [own]), ← ih, without_perform_self own]
      · rw [List.filter_cons_of_pos (by simp [own]), history, history,
          List.filter_cons_of_pos (by simp [own]), ← ih, perform_without own]

end IndexRegistry

-----------------------------------------------------------------------------------------
-- Histories
-----------------------------------------------------------------------------------------

/-- A call that asks for the next index leaves room for one: the greatest index is not recorded
in its category.
-/
def IndexCall.HasRoom (recorded : List (String × UInt32)) : IndexCall → Prop
  | .next category => (category, IndexRegistry.lastIndex) ∉ recorded
  | .reserve _ _ | .contains _ _ => True

instance decidableHasRoom (recorded : List (String × UInt32))
    : (call : IndexCall) → Decidable (call.HasRoom recorded)
  | .next category =>
      inferInstanceAs (Decidable ((category, IndexRegistry.lastIndex) ∉ recorded))
  | .reserve _ _ | .contains _ _ => inferInstanceAs (Decidable True)

/-- No call of a history asks for the next index of a category that holds the greatest one. -/
def HaveRoom (history : List IndexStep) : Prop :=
  ∀ position, (inside : position < history.length)
    → history[position].call.HasRoom (recordedBy (history.take position))

instance decidableHaveRoom (history : List IndexStep) : Decidable (HaveRoom history) :=
  inferInstanceAs (Decidable (∀ position, (_ : position < history.length) → _))

/-- What a registry that is empty at first answers to a sequence of calls. -/
structure IndexHistory (calls : List IndexCall) (history : List IndexStep) : Prop where
  answered : history.map IndexStep.call = calls
  next
    : ∀ earlier category answer later,
        history = earlier ++ ⟨.next category, answer⟩ :: later
        → category ≠ ""
        → ∃ index,
            answer = .given index ∧ FollowsRecorded (recordedIn category earlier) index
  reserve
    : ∀ earlier category index answer later,
        history = earlier ++ ⟨.reserve category index, answer⟩ :: later
        → (answer = .failed (.indexTaken category index)
              ↔ (category, index) ∈ recordedBy earlier)
          ∧ (answer = .reserved ↔ category ≠ "" ∧ (category, index) ∉ recordedBy earlier)
  contains
    : ∀ earlier category index answer later,
        history = earlier ++ ⟨.contains category index, answer⟩ :: later
        → answer = .found (decide ((category, index) ∈ recordedBy earlier))
  unnamed
    : ∀ earlier call answer later,
        history = earlier ++ ⟨call, answer⟩ :: later
        → (answer = .failed .emptyCategory
            ↔ call = .next "" ∨ ∃ index, call = .reserve "" index)
  /-- Without a call that fails, all the other calls are answered alike. -/
  failed
    : ∀ earlier call cause later,
        history = earlier ++ ⟨call, .failed cause⟩ :: later
        → ({} : IndexRegistry).history
              (earlier.map IndexStep.call ++ later.map IndexStep.call)
            = earlier ++ later
  /-- Without the calls on one category, those on the others are answered alike. -/
  independent
    : ∀ category,
        ({} : IndexRegistry).history (calls.filter (·.category != category))
        = history.filter (·.call.category != category)

/-- Every sequence of calls that leaves room for the next indices has answers that are a matter
of what was recorded in the same category before.
-/
theorem indexHistory_of_haveRoom (calls : List IndexCall)
    (room : HaveRoom (({} : IndexRegistry).history calls))
    : IndexHistory calls (({} : IndexRegistry).history calls) := by
  constructor
  case answered => exact IndexRegistry.history_calls _ _
  case next =>
    intro earlier category answer later split named
    obtain ⟨before, here⟩ := IndexRegistry.exists_splitAt split
    have unblocked : before.contains category IndexRegistry.lastIndex = false := by
      rw [← Bool.not_eq_true, here.contains_iff]
      have left := room earlier.length (by rw [split]; simp)
      simpa [split, IndexCall.HasRoom] using left
    obtain ⟨index, given, number⟩ := IndexRegistry.perform_next named unblocked
    refine ⟨index, here.answer_eq.trans given, .of_toNat (fun other => ?_) number⟩
    rw [IndexRegistry.mem_indices, here.contains_iff, mem_recordedIn]
  case reserve =>
    intro earlier category index answer later split
    obtain ⟨before, here⟩ := IndexRegistry.exists_splitAt split
    have answered : answer = (before.perform (.reserve category index)).1 := here.answer_eq
    have named : (category, index) ∈ recordedBy earlier → category ≠ "" := by
      rw [here.earlier_eq]
      exact IndexRegistry.named_of_recorded
    rw [IndexRegistry.perform_reserve] at answered
    rw [← here.contains_iff] at named ⊢
    by_cases unnamed : category = ""
    · have free := mt named (not_not_intro unnamed)
      simp [answered, unnamed, unnamed ▸ free]
    · by_cases taken : before.contains category index = true
      · simp [answered, unnamed, taken]
      · simp [answered, unnamed, taken]
  case contains =>
    intro earlier category index answer later split
    obtain ⟨before, here⟩ := IndexRegistry.exists_splitAt split
    have answered : answer = .found (before.contains category index) := here.answer_eq
    rw [answered, ← Bool.decide_coe (before.contains category index)]
    simp only [here.contains_iff]
  case unnamed =>
    intro earlier call answer later split
    obtain ⟨before, here⟩ := IndexRegistry.exists_splitAt split
    have answered : answer = (before.perform call).1 := here.answer_eq
    rw [answered, IndexRegistry.perform_eq_emptyCategory_iff]
  case failed =>
    intro earlier call cause later split
    obtain ⟨before, here⟩ := IndexRegistry.exists_splitAt split
    have kept := IndexRegistry.perform_of_failed here.answer_eq.symm
    have behind := here.later_eq
    rw [kept] at behind
    rw [IndexRegistry.history_append, ← here.reached, ← here.earlier_eq, ← behind]
  case independent =>
    intro category
    exact IndexRegistry.history_without {} category calls

/-- Calls on three categories, which fail where the category has no name or the index is taken.
-/
def mixedCalls : List IndexCall :=
  [.reserve "drive" 2, .next "bootindex", .reserve "bootindex" 4, .reserve "bootindex" 4,
    .next "", .next "bootindex", .contains "drive" 5, .next "drive",
    .reserve "net" 4294967295, .contains "net" 4294967295]

/-- The calls on three categories leave room, and their answers are what the history says. -/
theorem indexHistory_mixedCalls
    : HaveRoom (({} : IndexRegistry).history mixedCalls)
      ∧ IndexHistory mixedCalls (({} : IndexRegistry).history mixedCalls)
      ∧ (({} : IndexRegistry).history mixedCalls).map IndexStep.answer
        = [.reserved, .given 0, .reserved, .failed (.indexTaken "bootindex" 4),
            .failed .emptyCategory, .given 5, .found false, .given 3, .reserved,
            .found true] :=
  have room : HaveRoom (({} : IndexRegistry).history mixedCalls) := by decide +kernel
  ⟨room, indexHistory_of_haveRoom mixedCalls room, by decide +kernel⟩

end GuestLaunch
