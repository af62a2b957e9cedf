import GuestLaunch.Proofs.Descriptors.Pieces

/-!
The descriptors that a command line names. The numbers that are read off its arguments are those of
the child in order, each once, and each stands where the configuration has the descriptor of the
host that the child inherits under it.
-/

namespace GuestLaunch

/-- Lists that are read off a command line name the descriptors of the table, in its order. -/
structure ListsNamed (config : Config) (invocation : Invocation) (lists : PlacedLists Nat)
    : Prop where
  /-- The numbers are those of the child from the first one on, each once. -/
  consecutive : entriesOf lists = List.range' 3 invocation.descriptors.length
  /-- The numbers stand in the places of the configured descriptors, each for the entry of the
  table that the child inherits under it.
  -/
  standsFor
    : lists.map
          (fun list => (list.1, list.2.map fun number => invocation.descriptors[number - 3]?))
      = config.placedLists.map fun list => (list.1, list.2.map some)

/-- The descriptors that a command line names are those of the table, however they are read. -/
structure DescriptorsNamed (config : Config) (invocation : Invocation) : Prop where
  /-- By the parameters of the options. -/
  options : ListsNamed config invocation (readLists invocation.options)
  /-- By the arguments, with the network devices at hand: a list is told from a text behind it by
  its place.
  -/
  arguments
    : ∃ lists,
        config.readArguments? invocation.arguments = some lists
        ∧ ListsNamed config invocation lists
  /-- By the pieces of the arguments between commas, with nothing else at hand: no text may hold a
  comma then.
  -/
  pieces
    : (∀ text ∈ config.backendTexts, CommaFree text)
      → ∃ lists,
          listsInPieces? invocation.arguments = some lists
          ∧ ListsNamed config invocation lists

/-- The lists that the options of an assembly name are those of its table, unless it is too long. -/
theorem GrantedRun.listsNamed {settings : BuildSettings} {config : Config}
    (run : GrantedRun settings config)
    (few : run.invocation.descriptors.length < UInt32.size - 3)
    : ListsNamed config run.invocation (readLists run.invocation.options) := by
  have table : run.invocation.descriptors = entriesOf config.placedLists :=
    run.descriptors_final
  have bound : (entriesOf config.placedLists).length
      < UInt32.size - firstChildDescriptor := by
    rw [table] at few
    exact few
  constructor
  case consecutive =>
    rw [run.readLists_invocation, entriesOf_numberedFrom, table]
    exact childNumbers_eq (by rw [Nat.zero_add]; exact bound)
  case standsFor =>
    rw [run.readLists_invocation, table]
    exact map_numberedFrom (entriesOf config.placedLists) [] [] config.placedLists
      (List.append_nil _).symm bound

/-- In an assembly that succeeds without too many descriptors, the command line names all of
them in the order of the table, in the places where they are configured.
-/
theorem descriptors_named_of_build {settings : BuildSettings} {config : Config}
    {invocation : Invocation} (built : (build settings config).outcome = .ok invocation)
    (few : invocation.descriptors.length < UInt32.size - 3)
    : DescriptorsNamed config invocation := by
  obtain ⟨valid, run, rfl⟩ := build_ok_iff.mp built
  constructor
  case options => exact run.listsNamed few
  case arguments => exact ⟨_, run.readArguments?_arguments, run.listsNamed few⟩
  case pieces =>
    intro plain
    exact ⟨_, run.listsInPieces?_arguments plain, run.listsNamed few⟩

/-- A guest with two network devices whose backends inherit descriptors, and with a migration
that does.
-/
def inheritingGuest : Config where
  netDevices :=
    [{ id := "n0", type := .tap, vhost := true, vhostQueues := [20, 21], queues := [10, 11] },
      { id := "n1", type := .macvtap, driver := "virtio-net", queues := [12] }]
  incoming := .descriptor 30

/-- The guest that inherits descriptors is assembled, none of its texts holds a comma, and its
command line names the descriptors.
-/
theorem descriptors_named_inheritingGuest
    : ∃ invocation,
        (build {} inheritingGuest).outcome = .ok invocation
        ∧ invocation.descriptors.length < UInt32.size - 3
        ∧ (∀ text ∈ inheritingGuest.backendTexts, CommaFree text)
        ∧ DescriptorsNamed inheritingGuest invocation := by
  have succeeds : (build {} inheritingGuest).outcome.toOption.isSome = true := by
    decide +kernel
  obtain ⟨invocation, built⟩ := BuildReport.exists_invocation succeeds
  have few : invocation.descriptors.length < UInt32.size - 3 := by
    obtain ⟨_, run, rfl⟩ := build_ok_iff.mp built
    have table : run.invocation.descriptors = entriesOf inheritingGuest.placedLists :=
      run.descriptors_final
    rw [table]
    decide
  exact ⟨invocation, built, few, by decide, descriptors_named_of_build built few⟩

end GuestLaunch
