import GuestLaunch.Proofs.Arguments.Rewording

/-!
The form of a command line: options that are read back one by one, in one group for each stage
and one for each device, with the same flags whatever the free texts say.
-/

namespace GuestLaunch

/-- The form of the command line of an assembly. -/
structure WellFormedArguments (settings : BuildSettings) (config : Config)
    (invocation : Invocation) : Prop where
  /-- The reading goes through the whole command line. -/
  consumed : readOptions invocation.arguments = some (invocation.options.map LaunchOption.read)
  stages : (renderAll settings config).groups.map Prod.fst = Stage.all
  concatenated
    : invocation.arguments
      = (renderAll settings config).groups.flatMap fun group =>
          group.2.flatMap argumentsOf
  /-- Each part of a group is read by itself. -/
  whole
    : ∀ group ∈ (renderAll settings config).groups,
        ∀ part ∈ group.2,
          readOptions (argumentsOf part) = some (part.map LaunchOption.read)
  devices
    : ∀ parts,
        (Stage.devices, parts) ∈ (renderAll settings config).groups
        → parts = (deviceSteps settings config).map RenderStep.options
  planned
    : (deviceSteps settings config).map (fun step => step.planned.device)
      = Category.all.flatMap (Category.devices config)
  others
    : ∀ stage parts,
        (stage, parts) ∈ (renderAll settings config).groups
        → stage ≠ .devices
        → ∃ part, parts = [part]
  reworded
    : ∀ other : Config,
        other.Rewords config
        → ∃ again,
            (build settings other).outcome = .ok again
            ∧ wordsRead again.arguments = wordsRead invocation.arguments

namespace GrantedRun
variable {settings : BuildSettings} {config : Config}

theorem mem_groups (run : GrantedRun settings config) {stage : Stage}
    {parts : List (List LaunchOption)}
    : (stage, parts) ∈ (GuestLaunch.renderAll settings config).groups
      ↔ parts = run.groups stage := by
  have listed : stage ∈ Stage.all := by
    cases stage <;> decide
  rw [run.renderAll.1, List.mem_map]
  constructor
  · rintro ⟨own, _, same⟩
    cases same
    rfl
  · rintro rfl
    exact ⟨stage, listed, rfl⟩

end GrantedRun

/-- Every assembly that succeeds gives a command line of this form. -/
theorem wellFormedArguments_of_build {settings : BuildSettings} {config : Config}
    {invocation : Invocation} (built : (build settings config).outcome = .ok invocation)
    : WellFormedArguments settings config invocation := by
  obtain ⟨_, run, same⟩ := build_ok_iff.mp built
  constructor
  case consumed => exact readOptions_argumentsOf invocation.options
  case stages =>
    rw [run.renderAll.1, List.map_map]
    exact List.map_id _
  case concatenated =>
    rw [run.renderAll.1, List.flatMap_map, ← same]
    show argumentsOf (Stage.all.flatMap fun stage => (run.groups stage).flatten) = _
    rw [argumentsOf, List.flatMap_assoc]
    simp only [← argumentsOf_flatten]
    rfl
  case whole =>
    intro group _ part _
    exact readOptions_argumentsOf part
  case devices =>
    intro parts member
    rw [run.mem_groups.mp member, run.groups_devices]
  case planned => exact run.steps_devices
  case others =>
    intro stage parts member other
    rw [run.mem_groups.mp member]
    exact run.exists_groups_eq other
  case reworded =>
    intro other rewords
    obtain ⟨again, assembled, words⟩ := rewords.exists_invocation built
    refine ⟨again, assembled, ?_⟩
    rw [Invocation.arguments, Invocation.arguments, wordsRead_argumentsOf,
      wordsRead_argumentsOf, words]

/-- A guest whose free texts all look like flags. -/
def dashingGuest : Config where
  name := "-S"
  uuid := "-uuid"
  cpuModel := "-nodefaults"
  sandbox := "--no-reboot"
  machine := { type := "q35" }
  rootPorts := [{ id := "rp0" }]
  disks :=
    [{ driver := "virtio-blk", id := "d0", file := "-drive", interface := "none",
       format := "raw", serial := "-device" }]
  flashPairs := [{ code := "-bios", store := "-pflash" }]
  vga := "-vga"
  kernel := { path := "-kernel", initrdPath := "-initrd", params := "-append" }
  globalParams := ["-global", ""]
  knobs := { noDefaults := true, stopped := true }
  bios := "-snapshot"
  flashImages := ["-m"]
  incoming := .deferred
  pidFile := "-pidfile"
  logFile := "-D"

/-- A guest that differs from the one before only in its free texts. -/
def plainGuest : Config :=
  { dashingGuest with
    name := "guest"
    cpuModel := "host"
    kernel := { path := "/boot/vmlinuz", initrdPath := "/boot/initrd", params := "quiet" }
    disks :=
      [{ driver := "virtio-blk", id := "d0", file := "/var/disk.img", interface := "none",
         format := "raw", serial := "7" }]
    globalParams := ["a.b=c", ""] }

/-- The guest whose texts look like flags is assembled to a command line of this form, and the
plain guest rewords it.
-/
theorem wellFormedArguments_dashingGuest
    : ∃ invocation,
        (build {} dashingGuest).outcome = .ok invocation
        ∧ WellFormedArguments {} dashingGuest invocation
        ∧ plainGuest.Rewords dashingGuest := by
  have succeeds : (build {} dashingGuest).outcome.toOption.isSome = true := by
    decide +kernel
  obtain ⟨invocation, built⟩ := BuildReport.exists_invocation succeeds
  exact ⟨invocation, built, wellFormedArguments_of_build built, by decide +kernel⟩

end GuestLaunch
