import GuestLaunch.Proofs.Firmware.SecureBoot

/-!
Firmware in trees of files that are the same below their roots. Discovery finds the same names in
both and tells the same of secure boot, but it tells the layout of four mebibytes by a mark that
may as well stand in the root.
-/

namespace GuestLaunch
open Text

/-- A root for firmware, with the regular files of the file system that it is in. -/
structure FirmwareTree where
  isFile : String → Bool
  root : String

/-- Finds firmware below the root of a tree. -/
def FirmwareTree.discover (tree : FirmwareTree) (architecture : Architecture)
    (secureBoot : Bool) : Except FirmwareError FlashPair :=
  FlashPair.discover tree.isFile tree.root architecture secureBoot

/-- A relative name in which no two dots stand together, so that it leads to a place below the
directory that it is relative to.
-/
def StaysBelow (name : String) : Prop :=
  startsWith name "/" = false ∧ holds name ".." = false

instance (name : String) : Decidable (StaysBelow name) := inferInstanceAs (Decidable (_ ∧ _))

/-- Two trees hold the same files, named from their roots. -/
def SameFiles (first second : FirmwareTree) : Prop :=
  ∀ name,
    StaysBelow name
    → first.isFile (joinPath first.root name) = second.isFile (joinPath second.root name)

/-- The pair with these names below a root. -/
def FlashPair.below (names : FlashPair) (root : String) : FlashPair where
  code := joinPath root names.code
  store := joinPath root names.store

/-- Two outcomes of discovery below two roots that differ in the roots alone: both are failures, or
pairs of the same names of which the same is told.
-/
inductive DiscoveredAlike (first second : String)
    : Except FirmwareError FlashPair → Except FirmwareError FlashPair → Prop
  | neither (cause other : FirmwareError)
    : DiscoveredAlike first second (.error cause) (.error other)
  | both {names : FlashPair} (code : StaysBelow names.code) (store : StaysBelow names.store)
    (secureBoot : (names.below first).isSecureBoot = (names.below second).isSecureBoot)
    (fourMegabytes
      : (names.below first).isFourMegabytes = (names.below second).isFourMegabytes)
    : DiscoveredAlike first second (.ok (names.below first)) (.ok (names.below second))

namespace FirmwareLayout

/-- Whether a layout is one of four mebibytes. -/
def isFourMegabytes (layout : FirmwareLayout) : Bool := startsWith layout.code "_4M"

/-- The names of the images of a layout from the root of a tree. -/
def names (layout : FirmwareLayout) (architecture : Architecture) : FlashPair :=
  layout.pairAt "" architecture

/-- A layout is what discovery finds in a tree, with what is told of it there. -/
structure IsFoundIn (layout : FirmwareLayout) (tree : FirmwareTree)
    (architecture : Architecture) (secureBoot : Bool) : Prop where
  found
    : tree.discover architecture secureBoot = .ok ((layout.names architecture).below tree.root)
  secureBoot
    : ((layout.names architecture).below tree.root).isSecureBoot = layout.isMarkedSecure
  /-- The mark of a layout of four mebibytes is looked for in the root, too. -/
  fourMegabytes
    : ((layout.names architecture).below tree.root).isFourMegabytes
      = (layout.isFourMegabytes || holds tree.root "_4M")

end FirmwareLayout

/-- What discovery finds in two trees: nothing in either, or the same layout in both. Then the roots
show in the outcomes only where one root alone has a mark that the layout lacks.
-/
inductive RelocatedDiscovery (first second : FirmwareTree) (architecture : Architecture)
    (secureBoot : Bool) : Prop
  | missing {cause other : FirmwareError}
    (here : first.discover architecture secureBoot = .error cause)
    (there : second.discover architecture secureBoot = .error other)
  | found {layout : FirmwareLayout} (listed : layout ∈ FirmwareLayout.preferred secureBoot)
    (here : layout.IsFoundIn first architecture secureBoot)
    (there : layout.IsFoundIn second architecture secureBoot)
    (alike
      : DiscoveredAlike first.root second.root (first.discover architecture secureBoot)
            (second.discover architecture secureBoot)
        ↔ layout.isFourMegabytes = true
          ∨ holds first.root "_4M" = holds second.root "_4M")

/-- A name below a directory that is below another one is below that one, too. -/
theorem StaysBelow.joinPath {directory name : String} (below : StaysBelow directory)
    (present : directory ≠ "") (own : StaysBelow name)
    : StaysBelow (GuestLaunch.joinPath directory name) := by
  obtain ⟨relative, dotless⟩ := below
  obtain ⟨relativeName, dotlessName⟩ := own
  refine ⟨relative_joinPath relative present relativeName, ?_⟩
  rw [holds_joinPath relativeName (by decide), dotless, dotlessName, Bool.or_false]

-----------------------------------------------------------------------------------------
-- The images of a layout below a root
-----------------------------------------------------------------------------------------

namespace FirmwareLayout
variable {layout : FirmwareLayout} {secureBoot : Bool}

theorem familyDirectory_empty (architecture : Architecture)
    : FlashPair.familyDirectory "" architecture = architecture.firmwareFamily ++ "VMF" := by
  simp [FlashPair.familyDirectory, joinPath]

/-- The directory of a family stays below the root and has no mark of a layout. -/
theorem staysBelow_family_unmarked (architecture : Architecture)
    : StaysBelow (architecture.firmwareFamily ++ "VMF")
      ∧ holds (architecture.firmwareFamily ++ "VMF") "_4M" = false := by
  have every : ∀ family ∈ ["O", "AA", ""],
      StaysBelow (family ++ "VMF") ∧ holds (family ++ "VMF") "_4M" = false := by
    decide
  exact every _ (firmwareFamily_mem architecture)

theorem joinPath_familyDirectory {name : String} (relative : startsWith name "/" = false)
    (root : String) (architecture : Architecture)
    : joinPath (FlashPair.familyDirectory root architecture) name
      = joinPath root (joinPath (FlashPair.familyDirectory "" architecture) name) := by
  obtain ⟨⟨family, _⟩, _⟩ := staysBelow_family_unmarked architecture
  rw [familyDirectory_empty]
  exact joinPath_joinPath family (by simp) relative root

/-- The images of a layout have the same names below every root. -/
theorem pairAt_eq_below (layout : FirmwareLayout) (root : String)
    (architecture : Architecture)
    : layout.pairAt root architecture = (layout.names architecture).below root :=
  congrArg₂ FlashPair.mk
    (joinPath_familyDirectory (layout.relative_codeName architecture) root architecture)
    (joinPath_familyDirectory (layout.relative_storeName architecture) root architecture)

/-- The names of images have no dots that stand together, for each family and each layout of the
tables.
-/
theorem holds_dots_imageNames (listed : layout ∈ preferred secureBoot)
    (architecture : Architecture)
    : holds (layout.codeName architecture) ".." = false
      ∧ holds (layout.storeName architecture) ".." = false := by
  have every : ∀ family ∈ ["O", "AA", ""], ∀ secureBoot, ∀ layout ∈ preferred secureBoot,
      holds (imageName family "VMF_CODE" layout.code) ".." = false
        ∧ holds (imageName family "VMF_VARS" layout.store) ".." = false := by
    decide +kernel
  exact every _ (firmwareFamily_mem architecture) secureBoot layout listed

/-- No image leads out of the tree. -/
theorem staysBelow_names (listed : layout ∈ preferred secureBoot)
    (architecture : Architecture)
    : StaysBelow (layout.names architecture).code
      ∧ StaysBelow (layout.names architecture).store := by
  obtain ⟨family, _⟩ := staysBelow_family_unmarked architecture
  obtain ⟨code, store⟩ := holds_dots_imageNames listed architecture
  rw [← familyDirectory_empty] at family
  have present : FlashPair.familyDirectory "" architecture ≠ "" := by simp [familyDirectory_empty]
  exact ⟨family.joinPath present ⟨layout.relative_codeName architecture, code⟩,
    family.joinPath present ⟨layout.relative_storeName architecture, store⟩⟩

/-- The name of a code image shows whether its layout is one of four mebibytes, for each family and
each layout of the tables.
-/
theorem holds_codeName (listed : layout ∈ preferred secureBoot) (architecture : Architecture)
    : holds (layout.codeName architecture) "_4M" = layout.isFourMegabytes := by
  have every : ∀ family ∈ ["O", "AA", ""], ∀ secureBoot, ∀ layout ∈ preferred secureBoot,
      holds (imageName family "VMF_CODE" layout.code) "_4M" = layout.isFourMegabytes := by
    decide +kernel
  exact every _ (firmwareFamily_mem architecture) secureBoot layout listed

theorem isFourMegabytes_pairAt (listed : layout ∈ preferred secureBoot) (root : String)
    (architecture : Architecture)
    : (layout.pairAt root architecture).isFourMegabytes
      = (layout.isFourMegabytes || holds root "_4M") := by
  obtain ⟨⟨relative, _⟩, unmarked⟩ := staysBelow_family_unmarked architecture
  have pathless : '/' ∉ "_4M".toList := by decide
  show holds (joinPath (joinPath root (architecture.firmwareFamily ++ "VMF"))
    (layout.codeName architecture)) "_4M" = _
  rw [holds_joinPath (layout.relative_codeName architecture) pathless,
    holds_joinPath relative pathless, unmarked, holds_codeName listed, Bool.or_false,
    Bool.or_comm]

theorem isFoundIn_of_firstUsable? {tree : FirmwareTree} {architecture : Architecture}
    (first : firstUsable? tree.isFile tree.root architecture secureBoot = some layout)
    : layout.IsFoundIn tree architecture secureBoot := by
  have listed : layout ∈ preferred secureBoot := List.mem_of_find?_eq_some first
  constructor
  case found =>
    exact FlashPair.discover_eq_ok_iff.mpr ⟨layout, first, layout.pairAt_eq_below _ _⟩
  case secureBoot =>
    rw [← pairAt_eq_below]
    exact isSecureBoot_pairAt listed tree.root architecture
  case fourMegabytes =>
    rw [← pairAt_eq_below]
    exact isFourMegabytes_pairAt listed tree.root architecture

-----------------------------------------------------------------------------------------
-- Two trees with the same files
-----------------------------------------------------------------------------------------

theorem isUsable_iff_of_sameFiles {first second : FirmwareTree} (same : SameFiles first second)
    (listed : layout ∈ preferred secureBoot) (architecture : Architecture)
    : layout.IsUsable first.isFile first.root architecture
      ↔ layout.IsUsable second.isFile second.root architecture := by
  obtain ⟨code, store⟩ := staysBelow_names listed architecture
  rw [isUsable_iff, isUsable_iff, pairAt_eq_below, pairAt_eq_below, FlashPair.below,
    FlashPair.below, same _ code, same _ store]

/-- Trees with the same files have the same first usable layout. -/
theorem firstUsable?_eq_of_sameFiles {first second : FirmwareTree}
    (same : SameFiles first second) (architecture : Architecture) (secureBoot : Bool)
    : firstUsable? first.isFile first.root architecture secureBoot
      = firstUsable? second.isFile second.root architecture secureBoot := by
  rw [firstUsable?, firstUsable?, ← List.head?_filter, ← List.head?_filter]
  refine congrArg List.head? (List.filter_congr fun layout listed => ?_)
  exact decide_eq_decide.mpr (isUsable_iff_of_sameFiles same listed architecture)

end FirmwareLayout

theorem DiscoveredAlike.fourMegabytes {first second : String} {pair other : FlashPair}
    (alike : DiscoveredAlike first second (.ok pair) (.ok other))
    : pair.isFourMegabytes = other.isFourMegabytes := by
  cases alike with
  | both _ _ _ fourMegabytes => exact fourMegabytes

/-- What is found in a tree of files stays the same wherever the tree stands, but whether it is told
to have the layout of four mebibytes depends on the root, too.
-/
theorem discovery_relocated {first second : FirmwareTree} (same : SameFiles first second)
    (architecture : Architecture) (secureBoot : Bool)
    : RelocatedDiscovery first second architecture secureBoot := by
  have shared := FirmwareLayout.firstUsable?_eq_of_sameFiles same architecture secureBoot
  cases usable
    : FirmwareLayout.firstUsable? second.isFile second.root architecture secureBoot with
  | none =>
      exact .missing (FlashPair.discover_eq_error_iff.mpr ⟨shared.trans usable, rfl⟩)
        (FlashPair.discover_eq_error_iff.mpr ⟨usable, rfl⟩)
  | some layout =>
      have listed : layout ∈ FirmwareLayout.preferred secureBoot :=
        List.mem_of_find?_eq_some usable
      have here := FirmwareLayout.isFoundIn_of_firstUsable? (shared.trans usable)
      have there := FirmwareLayout.isFoundIn_of_firstUsable? usable
      refine .found listed here there ?_
      rw [here.found, there.found]
      constructor
      · intro alike
        have told := alike.fourMegabytes
        rw [here.fourMegabytes, there.fourMegabytes] at told
        cases own : layout.isFourMegabytes with
        | true => exact Or.inl rfl
        | false =>
            rw [own, Bool.false_or, Bool.false_or] at told
            exact Or.inr told
      · intro unmarked
        obtain ⟨code, store⟩ := FirmwareLayout.staysBelow_names listed architecture
        refine .both code store (here.secureBoot.trans there.secureBoot.symm) ?_
        rw [here.fourMegabytes, there.fourMegabytes]
        rcases unmarked with own | roots
        · rw [own, Bool.true_or, Bool.true_or]
        · rw [roots]

-----------------------------------------------------------------------------------------
-- One pair of images in several places
-----------------------------------------------------------------------------------------

/-- The images of the plain layout on x86 with 64 bits, below a root. -/
def plainPair (root : String) : FlashPair :=
  (FirmwareLayout.names ⟨"", "", false⟩ .x86_64).below root

/-- A tree with these images and nothing else. -/
def plainTree (root : String) : FirmwareTree where
  isFile path := path == (plainPair root).code || path == (plainPair root).store
  root := root

theorem sameFiles_plainTree (first second : String)
    : SameFiles (plainTree first) (plainTree second) := by
  intro name ⟨relative, _⟩
  have own (root : String) {known : String} (relativeKnown : startsWith known "/" = false)
      : (joinPath root name == joinPath root known) = (name == known) := by
    rw [joinPath_eq relative, joinPath_eq relativeKnown, Bool.eq_iff_iff]
    simp
  simp only [plainTree, plainPair, FlashPair.below]
  rw [own first (by decide +kernel), own first (by decide +kernel),
    own second (by decide +kernel), own second (by decide +kernel)]

/-- The images are found below every root, because they are found below the empty one. -/
theorem discover_plainTree (root : String)
    : (plainTree root).discover .x86_64 false = .ok (plainPair root) := by
  have shared := FirmwareLayout.firstUsable?_eq_of_sameFiles (sameFiles_plainTree root "")
    .x86_64 false
  exact FlashPair.discover_eq_ok_iff.mpr
    ⟨⟨"", "", false⟩, shared.trans (by decide +kernel), FirmwareLayout.pairAt_eq_below _ _ _⟩

/-- A tree of the distribution and a relative one have the same firmware. -/
theorem discovery_relocated_plainTree
    : let first : FirmwareTree := plainTree "/usr/share"
      let second : FirmwareTree := plainTree "firmware/"
      SameFiles first second
        ∧ RelocatedDiscovery first second .x86_64 false
        ∧ first.discover .x86_64 false
          = .ok ⟨"/usr/share/OVMF/OVMF_CODE.fd", "/usr/share/OVMF/OVMF_VARS.fd"⟩
        ∧ second.discover .x86_64 false
          = .ok ⟨"firmware/OVMF/OVMF_CODE.fd", "firmware/OVMF/OVMF_VARS.fd"⟩ := by
  intro first second
  have same : SameFiles first second := sameFiles_plainTree "/usr/share" "firmware/"
  have here : plainPair "/usr/share"
      = ⟨"/usr/share/OVMF/OVMF_CODE.fd", "/usr/share/OVMF/OVMF_VARS.fd"⟩ := by
    decide +kernel
  have there : plainPair "firmware/"
      = ⟨"firmware/OVMF/OVMF_CODE.fd", "firmware/OVMF/OVMF_VARS.fd"⟩ := by
    decide +kernel
  exact ⟨same, discovery_relocated same .x86_64 false, here ▸ discover_plainTree _,
    there ▸ discover_plainTree _⟩

/-- The same images below a root with the mark are told to have four mebibytes. -/
theorem not_discoveredAlike_markedRoot
    : let first : FirmwareTree := plainTree "/srv/firmware"
      let second : FirmwareTree := plainTree "/srv/firmware_4M"
      SameFiles first second
        ∧ first.discover .x86_64 false = .ok (plainPair "/srv/firmware")
        ∧ second.discover .x86_64 false = .ok (plainPair "/srv/firmware_4M")
        ∧ (plainPair "/srv/firmware").isFourMegabytes = false
        ∧ (plainPair "/srv/firmware_4M").isFourMegabytes = true
        ∧ ¬DiscoveredAlike first.root second.root (first.discover .x86_64 false)
            (second.discover .x86_64 false) := by
  intro first second
  have untold : (plainPair "/srv/firmware").isFourMegabytes = false := by decide +kernel
  have told : (plainPair "/srv/firmware_4M").isFourMegabytes = true := by decide +kernel
  have here : first.discover .x86_64 false = .ok (plainPair "/srv/firmware") :=
    discover_plainTree _
  have there : second.discover .x86_64 false = .ok (plainPair "/srv/firmware_4M") :=
    discover_plainTree _
  refine ⟨sameFiles_plainTree _ _, here, there, untold, told, ?_⟩
  intro alike
  rw [here, there] at alike
  have equal := alike.fourMegabytes
  rw [untold, told] at equal
  cases equal

end GuestLaunch
