import GuestLaunch.Proofs.DeviceOrder.Members
import GuestLaunch.Validation

/-!
Removing devices, sockets or memory entries from a configuration creates no problems. Without
the first holder of an identifier the next one repeats nothing any more, and every later one
repeated it before.
-/

namespace GuestLaunch

/-- A configuration without devices, control sockets and SMBIOS memory devices. -/
def Config.frame (config : Config) : Config :=
  { config with
    rootPorts := [], bridges := [], scsiControllers := [], ideControllers := []
    usbControllers := [], disks := [], charDevices := [], legacySerials := [], monitors := []
    netDevices := [], entropySources := [], balloons := [], virtioSerials := []
    flashPairs := [], spice := none, tpm := none, controlSockets := []
    smbios := { config.smbios with memory := [] } }

/-- A configuration is part of another if only devices, control sockets and SMBIOS memory
devices are missing and the others keep their order.
-/
structure Config.IsPartOf (smaller larger : Config) : Prop where
  /-- All other settings are the same. -/
  frame : smaller.frame = larger.frame
  /-- The devices of each category are some of those of the other, in their order. -/
  devices : ∀ category : Category,
    (category.devices smaller).Sublist (category.devices larger)
  /-- The display is missing or the same. -/
  spice : smaller.spice = none ∨ smaller.spice = larger.spice
  /-- The module is missing or the same. -/
  tpm : smaller.tpm = none ∨ smaller.tpm = larger.tpm
  /-- The control sockets are some of those of the other, in their order. -/
  sockets : smaller.controlSockets.Sublist larger.controlSockets
  /-- The memory devices are some of those of the other, in their order. -/
  memory : smaller.smbios.memory.Sublist larger.smbios.memory

/-- Fewer checks find fewer problems. -/
theorem problemsOf_sublist {fewer more : List (Option Problem)} (kept : fewer.Sublist more)
    : (problemsOf fewer).Sublist (problemsOf more) :=
  kept.filterMap id

/-- A part of a configuration that is missing or the same has no problem that is new. -/
theorem optionalProblem_sublist {Part : Type} {smaller larger : Option Part}
    (kept : smaller = none ∨ smaller = larger) (problem? : Part → Option Problem)
    : (smaller.bind problem?).toList.Sublist (larger.bind problem?).toList := by
  rcases kept with rfl | rfl
  · exact List.nil_sublist _
  · exact .refl _

/-- Fewer devices of a category, with fewer identifiers before them, have some of the problems
of more, by induction on the devices that are kept. Where a device is missing, its identifier
is known on the larger side only.
-/
theorem categoryProblems_sublist {fewer more : List String} {smaller larger : List Device}
    (known : fewer ⊆ more) (kept : smaller.Sublist larger)
    : (categoryProblems fewer smaller).Sublist (categoryProblems more larger) := by
  induction kept generalizing fewer more with
  | slnil => exact .refl _
  | cons device _ ih =>
      have later := ih (List.subset_append_of_subset_right device.id?.toList known)
      exact later.trans (List.sublist_append_right _ _)
  | cons_cons device _ ih =>
      have later := ih (List.append_subset.mpr
        ⟨List.subset_append_left device.id?.toList more,
          List.subset_append_of_subset_right _ known⟩)
      refine .append (.append (.refl _) ?_) later
      cases named : device.id? with
      | none => exact .refl _
      | some id =>
          by_cases held : id ∈ fewer
          · simp [held, known held]
          · simp [held]

/-- A part of a configuration has some of its problems, in their order; a part of a valid
configuration is valid.
-/
theorem Config.problems_of_isPartOf {smaller larger : Config}
    (part : smaller.IsPartOf larger)
    : smaller.problems.Sublist larger.problems
      ∧ (larger.problems = [] → smaller.problems = []) := by
  have machine : smaller.machine = larger.machine :=
    congrArg (fun config => config.machine) part.frame
  have bios : smaller.smbios.bios = larger.smbios.bios :=
    congrArg (fun config => config.smbios.bios) part.frame
  have processors : smaller.processors = larger.processors :=
    congrArg (fun config => config.processors) part.frame
  have tables : smaller.smbios.problems.Sublist larger.smbios.problems := by
    rw [Smbios.problems, Smbios.problems, bios]
    exact problemsOf_sublist ((part.memory.map _).cons_cons _)
  have devices : (Category.all.flatMap fun category =>
        categoryProblems [] (category.devices smaller)).Sublist
      (Category.all.flatMap fun category =>
        categoryProblems [] (category.devices larger)) :=
    .flatMap_right _ fun category _ =>
      categoryProblems_sublist (List.Subset.refl _) (part.devices category)
  have problems : smaller.problems.Sublist larger.problems := by
    rw [Config.problems, Config.problems, machine, processors]
    -- from the last group of problems to the first
    refine .append ?_ (.refl _)
    refine .append ?_ devices
    refine .append ?_ (problemsOf_sublist (part.sockets.map _))
    refine .append ?_ tables
    refine .append ?_ (optionalProblem_sublist part.tpm _)
    exact .append (.refl _) (optionalProblem_sublist part.spice _)
  refine ⟨problems, ?_⟩
  intro valid
  exact List.sublist_nil.mp (valid ▸ problems)

/-- A guest with three holders of an identifier, a socket without a name, and two tables. -/
def crowdedGuest : Config where
  controlSockets := [{ type := "unix" }, { type := "unix", name := "/run/q.sock" }]
  smbios := { memory := [{ speed := "fast" }, { speed := "3200" }] }
  tpm := some { id := "tpm0" }
  balloons := [{ id := "b0" }, { id := "b1" }, { id := "b0" }, { id := "b0" }]

/-- The guest without the first holder, the socket without a name, and both tables. -/
def thinnedGuest : Config where
  controlSockets := [{ type := "unix", name := "/run/q.sock" }]
  balloons := [{ id := "b1" }, { id := "b0" }, { id := "b0" }]

/-- The result applies where the first holder of an identifier is removed: of two repetitions
one is left.
-/
theorem problems_of_isPartOf_thinnedGuest
    : thinnedGuest.IsPartOf crowdedGuest
      ∧ thinnedGuest.problems = [.duplicateId Balloon.label "b0"]
      ∧ thinnedGuest.problems.Sublist crowdedGuest.problems := by
  have part : thinnedGuest.IsPartOf crowdedGuest := by
    constructor
    case frame => decide
    case devices =>
      intro category
      cases category <;> decide
    case spice => decide
    case tpm => decide
    case sockets => decide
    case memory => decide
  exact ⟨part, by decide, (Config.problems_of_isPartOf part).1⟩

end GuestLaunch
