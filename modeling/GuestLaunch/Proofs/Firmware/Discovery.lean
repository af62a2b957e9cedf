import GuestLaunch.Firmware

/-!
Which firmware is discovered. The layouts are tried in a fixed order, and the first one wins that
suits the architecture and of which both images are installed. With more files installed it stays
or gives way to an earlier one.
-/

namespace GuestLaunch

namespace FirmwareLayout

/-- The layouts with or without secure boot, in the order of preference. -/
def preferred (secureBoot : Bool) : List FirmwareLayout :=
  if secureBoot then secure else insecure

/-- A layout that only x86 with 64 bits has is for no other architecture. -/
def IsFor (layout : FirmwareLayout) (architecture : Architecture) : Prop :=
  layout.x86Only = true → architecture = .x86_64

instance (layout : FirmwareLayout) (architecture : Architecture)
    : Decidable (layout.IsFor architecture) :=
  inferInstanceAs (Decidable (_ → _))

/-- The pair of a layout for an architecture, in the tree of files below a root. -/
def pairAt (layout : FirmwareLayout) (root : String) (architecture : Architecture)
    : FlashPair :=
  layout.pair architecture.firmwareFamily (FlashPair.familyDirectory root architecture)

/-- A layout that can be used: it is for the architecture, and both of its images are regular
files.
-/
structure IsUsable (layout : FirmwareLayout) (isFile : String → Bool) (root : String)
    (architecture : Architecture) : Prop where
  suits : layout.IsFor architecture
  code : isFile (layout.pairAt root architecture).code = true
  store : isFile (layout.pairAt root architecture).store = true

/-- The layout at a position of the order of preference, which is usable while none before it
is.
-/
structure IsEarliest (layout : FirmwareLayout) (isFile : String → Bool) (root : String)
    (architecture : Architecture) (secureBoot : Bool) (position : Nat) : Prop where
  listed : (preferred secureBoot)[position]? = some layout
  usable : layout.IsUsable isFile root architecture
  earliest
    : ∀ earlier other,
        earlier < position
        → (preferred secureBoot)[earlier]? = some other
        → ¬other.IsUsable isFile root architecture

end FirmwareLayout

/-- What discovery finds among the files that are installed. -/
structure DiscoversEarliest (isFile : String → Bool) (root : String)
    (architecture : Architecture) (secureBoot : Bool) : Prop where
  found
    : ∀ pair,
        FlashPair.discover isFile root architecture secureBoot = .ok pair
        ↔ ∃ (position : Nat) (layout : FirmwareLayout),
            layout.IsEarliest isFile root architecture secureBoot position
            ∧ layout.pairAt root architecture = pair
  notFound
    : ∀ cause,
        FlashPair.discover isFile root architecture secureBoot = .error cause
        ↔ cause
              = .notFound architecture.firmwareFamily
                (FlashPair.familyDirectory root architecture)
          ∧ ∀ layout ∈ FirmwareLayout.preferred secureBoot,
              ¬layout.IsUsable isFile root architecture
  /-- With more files, discovery still succeeds, and moves to an earlier layout or not at all. -/
  monotone
    : ∀ (more : String → Bool) (position : Nat) (layout : FirmwareLayout),
        (∀ path, isFile path = true → more path = true)
        → layout.IsEarliest isFile root architecture secureBoot position
        → ∃ (earlier : Nat) (other : FirmwareLayout),
            earlier ≤ position
            ∧ other.IsEarliest more root architecture secureBoot earlier
            ∧ FlashPair.discover more root architecture secureBoot
              = .ok (other.pairAt root architecture)

-----------------------------------------------------------------------------------------
-- The search among the layouts
-----------------------------------------------------------------------------------------

namespace FirmwareLayout
variable {layout : FirmwareLayout} {isFile more : String → Bool} {root : String}
  {architecture : Architecture} {secureBoot : Bool} {position : Nat}

theorem suits_iff (layout : FirmwareLayout) (architecture : Architecture)
    : (!layout.x86Only || architecture == .x86_64) = true ↔ layout.IsFor architecture := by
  cases own : layout.x86Only <;> simp [IsFor, own]

theorem isUsable_iff
    : layout.IsUsable isFile root architecture
      ↔ layout.IsFor architecture
        ∧ isFile (layout.pairAt root architecture).code = true
        ∧ isFile (layout.pairAt root architecture).store = true :=
  ⟨fun usable => ⟨usable.suits, usable.code, usable.store⟩,
    fun ⟨suits, code, store⟩ => ⟨suits, code, store⟩⟩

instance : Decidable (layout.IsUsable isFile root architecture) :=
  decidable_of_iff' _ isUsable_iff

/-- The first usable layout. -/
def firstUsable? (isFile : String → Bool) (root : String) (architecture : Architecture)
    (secureBoot : Bool) : Option FirmwareLayout :=
  (preferred secureBoot).find? fun layout => layout.IsUsable isFile root architecture

/-- The first usable layout stands at the first position at which one is usable. -/
theorem firstUsable?_eq_some_iff
    : firstUsable? isFile root architecture secureBoot = some layout
      ↔ ∃ position, layout.IsEarliest isFile root architecture secureBoot position := by
  rw [firstUsable?, List.find?_eq_some_iff_getElem]
  constructor
  · rintro ⟨usable, position, inside, listed, before⟩
    refine ⟨position, ?_, of_decide_eq_true usable, ?_⟩
    · rw [List.getElem?_eq_getElem inside, listed]
    · intro earlier other less otherListed
      obtain ⟨_, rfl⟩ := List.getElem?_eq_some_iff.mp otherListed
      simpa using before earlier less
  · rintro ⟨position, listed, usable, earliest⟩
    obtain ⟨inside, own⟩ := List.getElem?_eq_some_iff.mp listed
    refine ⟨decide_eq_true usable, position, inside, own, ?_⟩
    intro earlier less
    simpa using earliest earlier _ less (List.getElem?_eq_getElem (Nat.lt_trans less inside))

theorem firstUsable?_eq_none_iff
    : firstUsable? isFile root architecture secureBoot = none
      ↔ ∀ layout ∈ preferred secureBoot, ¬layout.IsUsable isFile root architecture := by
  simp [firstUsable?]

theorem IsUsable.mono (usable : layout.IsUsable isFile root architecture)
    (grown : ∀ path, isFile path = true → more path = true)
    : layout.IsUsable more root architecture :=
  ⟨usable.suits, grown _ usable.code, grown _ usable.store⟩

end FirmwareLayout

namespace FlashPair

theorem missing_isEmpty_iff (pair : FlashPair) (isFile : String → Bool)
    : (pair.missing isFile).isEmpty = true
      ↔ isFile pair.code = true ∧ isFile pair.store = true := by
  simp [missing]

/-- Discovery gives the pair of the first usable layout. -/
theorem discover_eq (isFile : String → Bool) (root : String) (architecture : Architecture)
    (secureBoot : Bool)
    : discover isFile root architecture secureBoot
      = match FirmwareLayout.firstUsable? isFile root architecture secureBoot with
        | some layout => .ok (layout.pairAt root architecture)
        | none =>
            .error
              (.notFound architecture.firmwareFamily (familyDirectory root architecture)) := by
  have search
      : (candidates root architecture secureBoot).find?
            (fun pair => (pair.missing isFile).isEmpty)
        = (FirmwareLayout.firstUsable? isFile root architecture secureBoot).map
            fun layout => layout.pairAt root architecture := by
    rw [candidates, List.find?_map, FirmwareLayout.candidates, List.find?_filter]
    refine congrArg (Option.map _) (congrArg (List.find? · _) (funext fun layout => ?_))
    refine decide_eq_decide.mpr (Iff.trans ?_ FirmwareLayout.isUsable_iff.symm)
    exact and_congr (layout.suits_iff architecture) (missing_isEmpty_iff _ isFile)
  rw [discover, search]
  cases FirmwareLayout.firstUsable? isFile root architecture secureBoot <;> rfl

theorem discover_eq_ok_iff {isFile : String → Bool} {root : String}
    {architecture : Architecture} {secureBoot : Bool} {pair : FlashPair}
    : discover isFile root architecture secureBoot = .ok pair
      ↔ ∃ layout,
          FirmwareLayout.firstUsable? isFile root architecture secureBoot = some layout
          ∧ layout.pairAt root architecture = pair := by
  rw [discover_eq]
  cases FirmwareLayout.firstUsable? isFile root architecture secureBoot <;> simp

theorem discover_eq_error_iff {isFile : String → Bool} {root : String}
    {architecture : Architecture} {secureBoot : Bool} {cause : FirmwareError}
    : discover isFile root architecture secureBoot = .error cause
      ↔ FirmwareLayout.firstUsable? isFile root architecture secureBoot = none
        ∧ cause
          = .notFound architecture.firmwareFamily (familyDirectory root architecture) := by
  rw [discover_eq]
  cases FirmwareLayout.firstUsable? isFile root architecture secureBoot <;> simp [eq_comm]

/-- Discovery finds the first usable layout, fails exactly if none is usable, and with more files
finds the same layout or one before it.
-/
theorem discovers_earliest (isFile : String → Bool) (root : String)
    (architecture : Architecture) (secureBoot : Bool)
    : DiscoversEarliest isFile root architecture secureBoot := by
  constructor
  case found =>
    intro pair
    rw [discover_eq_ok_iff]
    constructor
    · rintro ⟨layout, first, own⟩
      obtain ⟨position, earliest⟩ := FirmwareLayout.firstUsable?_eq_some_iff.mp first
      exact ⟨position, layout, earliest, own⟩
    · rintro ⟨position, layout, earliest, own⟩
      exact ⟨layout, FirmwareLayout.firstUsable?_eq_some_iff.mpr ⟨position, earliest⟩, own⟩
  case notFound =>
    intro cause
    rw [discover_eq_error_iff, FirmwareLayout.firstUsable?_eq_none_iff, and_comm]
  case monotone =>
    intro more position layout grown earliest
    have usable := earliest.usable.mono grown
    cases first : FirmwareLayout.firstUsable? more root architecture secureBoot with
    | none =>
        have listed := List.mem_of_getElem? earliest.listed
        exact absurd usable (FirmwareLayout.firstUsable?_eq_none_iff.mp first layout listed)
    | some other =>
        obtain ⟨earlier, own⟩ := FirmwareLayout.firstUsable?_eq_some_iff.mp first
        have found := discover_eq_ok_iff.mpr ⟨other, first, rfl⟩
        refine ⟨earlier, other, Nat.le_of_not_lt ?_, own, found⟩
        intro later
        exact own.earliest position layout later earliest.listed usable

/-- The code of the first layout is installed without its store, so that the third one is found,
until the store is added. Without secure boot, and off x86, the second layout is the only one to be
tried.
-/
theorem discovers_earliest_halfInstalled
    : let files : List String :=
        ["/usr/share/OVMF/OVMF_CODE_4M.secboot.fd", "/usr/share/OVMF/OVMF_CODE.secboot.fd",
          "/usr/share/OVMF/OVMF_VARS.secboot.fd", "/usr/share/OVMF/OVMF_CODE.ms.fd",
          "/usr/share/OVMF/OVMF_VARS.ms.fd"]
      let isFile (path : String) : Bool := files.contains path
      let more (path : String) : Bool :=
        path == "/usr/share/OVMF/OVMF_VARS_4M.ms.fd" || isFile path
      let layout : FirmwareLayout := ⟨".secboot", ".secboot", true⟩
      let plain (path : String) : Bool :=
        ["/usr/share/AAVMF/AAVMF_CODE.fd", "/usr/share/AAVMF/AAVMF_VARS.fd"].contains path
      let only : FirmwareLayout := ⟨"", "", false⟩
      DiscoversEarliest isFile "/usr/share" .x86_64 true
        ∧ layout.IsEarliest isFile "/usr/share" .x86_64 true 2
        ∧ discover isFile "/usr/share" .x86_64 true = .ok (layout.pairAt "/usr/share" .x86_64)
        ∧ (∀ path, isFile path = true → more path = true)
        ∧ (∃ (earlier : Nat) (other : FirmwareLayout),
            earlier ≤ 2
            ∧ other.IsEarliest more "/usr/share" .x86_64 true earlier
            ∧ discover more "/usr/share" .x86_64 true
              = .ok (other.pairAt "/usr/share" .x86_64))
        ∧ DiscoversEarliest plain "/usr/share" .aarch64 false
        ∧ only.IsEarliest plain "/usr/share" .aarch64 false 1
        ∧ discover plain "/usr/share" .aarch64 false
          = .ok (only.pairAt "/usr/share" .aarch64) := by
  intro files isFile more layout plain only
  have discovers := discovers_earliest isFile "/usr/share" .x86_64 true
  have earliest : layout.IsEarliest isFile "/usr/share" .x86_64 true 2 := by
    refine ⟨rfl, by decide +kernel, ?_⟩
    intro earlier other less listed
    obtain rfl | rfl : earlier = 0 ∨ earlier = 1 := by omega
    all_goals
      obtain rfl := Option.some.inj listed
      decide +kernel
  have grown : ∀ path, isFile path = true → more path = true := by
    intro path own
    show (_ || isFile path) = true
    rw [own, Bool.or_true]
  have insecure := discovers_earliest plain "/usr/share" .aarch64 false
  have second : only.IsEarliest plain "/usr/share" .aarch64 false 1 := by
    refine ⟨rfl, by decide +kernel, ?_⟩
    intro earlier other less listed
    obtain rfl : earlier = 0 := by omega
    obtain rfl := Option.some.inj listed
    decide +kernel
  exact ⟨discovers, earliest, (discovers.found _).mpr ⟨2, layout, earliest, rfl⟩, grown,
    discovers.monotone more 2 layout grown earliest, insecure, second,
    (insecure.found _).mpr ⟨1, only, second, rfl⟩⟩

end FlashPair

end GuestLaunch
