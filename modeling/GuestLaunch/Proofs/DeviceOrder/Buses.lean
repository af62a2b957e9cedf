import GuestLaunch.Proofs.DeviceOrder.Members
import GuestLaunch.Proofs.Options.Properties
import GuestLaunch.Proofs.Placement.SlotOwnership

/-!
Controllers and the devices on their buses. The hypervisor wants a controller declared before a
device refers to its bus, and categories are rendered in a fixed order, so a reference is in
order exactly if the category of the controller comes before that of the device.
-/

namespace GuestLaunch

-----------------------------------------------------------------------------------------
-- References to buses
-----------------------------------------------------------------------------------------

namespace Device

/-- The identifier of a device that is a controller with a bus. -/
def controllerId? : Device → Option String
  | rootPort device => some device.id
  | bridge device => some device.id
  | scsi device => some device.id
  | ide device => some device.id
  | usb device => some device.id
  | virtioSerial device => some device.id
  | _ => none

/-- The bus field of a device. -/
def bus? : Device → Option String
  | rootPort device => some device.bus
  | bridge device => some device.bus
  | scsi device => some device.bus
  | ide device => some device.bus
  | usb device => some device.bus
  | disk device => some device.bus
  | char device => some device.bus
  | net device => some device.bus
  | entropy device => some device.bus
  | _ => none

end Device

/-- A bus is named by the identifier of its controller, or by that and a number. -/
def NamesBus (id bus : String) : Prop :=
  bus = id
  ∨ ∃ number, number ≠ "" ∧ number.toList.all Char.isDigit ∧ bus = id ++ "." ++ number

/-- A device with the parameters of an option of its own refers to the bus of a controller of
another category: its bus field names it, and the option renders this field.
-/
structure RefersTo (config : Config) (user : Category × Device) (params : List Param)
    (controller : Category × Device) (id : String) : Prop where
  listed : controller ∈ config.members
  apart : controller.1 ≠ user.1
  provides : controller.2.controllerId? = some id
  named : ∃ bus ∈ user.2.bus?, NamesBus id bus ∧ bus ∈ valuesUnder "bus" params

-----------------------------------------------------------------------------------------
-- Options with their devices
-----------------------------------------------------------------------------------------

/-- The options of parts, each with the source of its part. -/
def withSources {α : Type} (sources : List α) (parts : List (List LaunchOption))
    : List (α × LaunchOption) :=
  (sources.zip parts).flatMap fun part => part.2.map fun option => (part.1, option)

/-- The sources of the parts of a stage: the devices, or nothing where a stage has none. -/
def Stage.sources (config : Config) : Stage → List (Option (Category × Device))
  | devices => config.members.map some
  | _ => [none]

/-- The options of an assembly in their order, each with its device if it belongs to one. -/
def sourcedOptions (settings : BuildSettings) (config : Config)
    : List (Option (Category × Device) × LaunchOption) :=
  (renderAll settings config).groups.flatMap fun group =>
    withSources (group.1.sources config) group.2

/-- Every device option that refers to the bus of a controller of another category stands
behind the option that declares the controller.
-/
def BusesPrecede (settings : BuildSettings) (config : Config) : Prop :=
  ∀ earlier user params later,
    sourcedOptions settings config
        = earlier ++ (some user, .setting .device params) :: later
      → ∀ controller id,
          RefersTo config user params controller id
          → ∃ own,
              (some controller, .setting .device own) ∈ earlier
              ∧ id ∈ valuesUnder "id" own

section
variable {α : Type} {sources : List α} {parts : List (List LaunchOption)}

theorem map_snd_withSources (same : parts.length = sources.length)
    : (withSources sources parts).map Prod.snd = parts.flatten := by
  rw [withSources, List.map_flatMap]
  simp only [List.map_map, Function.comp_def, List.map_id']
  rw [List.flatMap_def, List.map_snd_zip (Nat.le_of_eq same)]

theorem mem_withSources {sourced : α × LaunchOption}
    : sourced ∈ withSources sources parts
      ↔ ∃ part, (sourced.1, part) ∈ sources.zip parts ∧ sourced.2 ∈ part := by
  rw [withSources, List.mem_flatMap]
  constructor
  · rintro ⟨part, listed, own⟩
    obtain ⟨option, member, rfl⟩ := List.mem_map.mp own
    exact ⟨part.2, listed, member⟩
  · rintro ⟨part, listed, own⟩
    exact ⟨_, listed, List.mem_map.mpr ⟨sourced.2, own, rfl⟩⟩

/-- Options stand in any order in which their sources stand. -/
theorem pairwise_withSources {order : α → α → Prop}
    (reflexive : ∀ source, order source source) (sorted : sources.Pairwise order)
    (same : parts.length = sources.length)
    : (withSources sources parts).Pairwise fun first second => order first.1 second.1 := by
  have zipped : (sources.zip parts).Pairwise fun first second => order first.1 second.1 := by
    rw [← List.map_fst_zip (Nat.le_of_eq same.symm)] at sorted
    exact List.pairwise_map.mp sorted
  rw [withSources, List.pairwise_flatMap]
  constructor
  · intro part _
    rw [List.pairwise_map]
    exact List.pairwise_of_forall fun _ _ => reflexive part.1
  · refine zipped.imp fun below first own second other => ?_
    obtain ⟨_, _, rfl⟩ := List.mem_map.mp own
    obtain ⟨_, _, rfl⟩ := List.mem_map.mp other
    exact below

end

-----------------------------------------------------------------------------------------
-- The order of the sources
-----------------------------------------------------------------------------------------

/-- The order of sources: two devices stand in the order of their categories. -/
def SourceOrder (first second : Option (Category × Device)) : Prop :=
  ∀ own ∈ first, ∀ other ∈ second, own.1.rank ≤ other.1.rank

theorem Stage.sources_pairwise (stage : Stage) (config : Config)
    : (stage.sources config).Pairwise SourceOrder := by
  cases stage with
  | devices =>
      rw [sources, List.pairwise_map]
      refine config.members_pairwise.imp fun below own first other second => ?_
      obtain rfl := Option.some.inj first
      obtain rfl := Option.some.inj second
      exact below
  | _ => exact List.pairwise_singleton _ _

/-- Of two different stages one has no devices at all. -/
theorem Stage.sourceOrder_of_ne {first second : Stage} (apart : first ≠ second)
    {config : Config} {source other : Option (Category × Device)}
    (own : source ∈ first.sources config) (later : other ∈ second.sources config)
    : SourceOrder source other := by
  have none (stage : Stage) (plain : stage ≠ .devices) {source : Option (Category × Device)}
      (member : source ∈ stage.sources config)
      : source = none := by
    cases stage
    case devices => exact absurd rfl plain
    all_goals exact List.mem_singleton.mp member
  intro device listed further behind
  by_cases plain : first = .devices
  · rw [none second (plain ▸ apart.symm) later] at behind
    cases behind
  · rw [none first plain own] at listed
    cases listed

namespace GrantedRun
variable {settings : BuildSettings} {config : Config}

theorem sourcedOptions_eq (run : GrantedRun settings config)
    : sourcedOptions settings config
      = Stage.all.flatMap fun stage =>
        withSources (stage.sources config) (run.groups stage) := by
  rw [sourcedOptions, run.renderAll.1, List.flatMap_map]

/-- Every part of a stage has one source. -/
theorem length_groups (run : GrantedRun settings config) (stage : Stage)
    : (run.groups stage).length = (stage.sources config).length := by
  cases stage with
  | devices =>
      have steps := congrArg List.length run.steps_devices
      have members := congrArg List.length config.members_snd
      rw [List.length_map] at steps members
      rw [run.groups_devices, Stage.sources, List.length_map, List.length_map]
      omega
  | _ => rfl

/-- Without their sources, the options are those of the command line. -/
theorem map_snd_sourcedOptions (run : GrantedRun settings config)
    : (sourcedOptions settings config).map Prod.snd = run.invocation.options := by
  rw [run.sourcedOptions_eq, List.map_flatMap]
  simp only [map_snd_withSources (run.length_groups _)]
  rfl

/-- The options of devices stand in the order of their categories. -/
theorem sourcedOptions_pairwise (run : GrantedRun settings config)
    : (sourcedOptions settings config).Pairwise fun first second =>
        SourceOrder first.1 second.1 := by
  have stages : Stage.all.Nodup := by decide
  have source {stage : Stage} {sourced : Option (Category × Device) × LaunchOption}
      (member : sourced ∈ withSources (stage.sources config) (run.groups stage))
      : sourced.1 ∈ stage.sources config := by
    obtain ⟨part, listed, _⟩ := mem_withSources.mp member
    exact (List.of_mem_zip listed).1
  rw [run.sourcedOptions_eq, List.pairwise_flatMap]
  constructor
  · intro stage _
    refine pairwise_withSources ?_ (stage.sources_pairwise config) (run.length_groups stage)
    intro source own first other second
    cases Option.mem_unique first second
    exact Nat.le_refl _
  · exact stages.imp fun apart first own second other =>
      Stage.sourceOrder_of_ne apart (source own) (source other)

end GrantedRun

-----------------------------------------------------------------------------------------
-- Declarations of controllers
-----------------------------------------------------------------------------------------

theorem PciController.exists_declaration {controller : PciController} {busParams : List Param}
    {grants : List Grant} {slot : Nat} (granted : slotIn? grants = some slot)
    : ∃ own,
        .setting .device own ∈ controller.optionsFor busParams grants
        ∧ controller.id ∈ valuesUnder "id" own := by
  refine ⟨controller.params slot busParams, ?_, ?_⟩
  · rw [optionsFor, granted]
    exact List.mem_singleton_self _
  · simp [params]

/-- A controller to which its requests are granted is declared by one of its options, by the
kind of controller.
-/
theorem RenderStep.exists_declaration (step : RenderStep) {grants : List Grant}
    (granted : Granted step.before step.planned.requests grants step.after) {id : String}
    (provides : step.planned.device.controllerId? = some id) (placement : Placement)
    (architecture : Architecture)
    : ∃ own,
        .setting .device own ∈ step.planned.device.optionsFor placement architecture grants
        ∧ id ∈ valuesUnder "id" own := by
  have slotted {address : String}
      (asks : step.planned.device.slotAddress? step.planned.transport = some address)
      : ∃ slot, slotIn? grants = some slot := by
    obtain ⟨slot, _, single, _⟩ := step.allocate_of_granted granted asks
    exact ⟨slot, by rw [slotIn?_eq_head?, single]; rfl⟩
  cases kind : step.planned.device with
  | rootPort device =>
      rw [kind] at provides
      cases provides
      exact ⟨_, List.mem_singleton_self _, by simp [RootPort.params]⟩
  | bridge device =>
      rw [kind] at provides
      cases provides
      refine ⟨_, List.mem_singleton_self _, ?_⟩
      cases type : device.type <;> simp [Bridge.params, Bridge.identityParams, type]
  | scsi device =>
      rw [kind] at provides
      cases provides
      exact ⟨_, List.mem_cons_self, by simp [ScsiController.params]⟩
  | ide device =>
      rw [kind] at provides slotted
      cases provides
      obtain ⟨slot, own⟩ := slotted rfl
      exact PciController.exists_declaration own
  | usb device =>
      rw [kind] at provides slotted
      cases provides
      obtain ⟨slot, own⟩ := slotted rfl
      exact PciController.exists_declaration own
  | virtioSerial device =>
      rw [kind] at provides
      cases provides
      exact ⟨_, List.mem_singleton_self _, by simp [VirtioSerial.params]⟩
  | _ =>
      rw [kind] at provides
      cases provides

/-- Two lists that agree in what they say of their elements say the same of two elements in one
place, by induction on the first.
-/
theorem exists_mem_zip {α β γ : Type} {first : List α} {second : List β} {own : α → γ}
    {other : β → γ} (same : first.map own = second.map other) {item : α}
    (member : item ∈ first)
    : ∃ partner, (item, partner) ∈ first.zip second ∧ other partner = own item := by
  induction first generalizing second with
  | nil => cases member
  | cons head rest ih =>
      cases second with
      | nil => cases same
      | cons partner more =>
          obtain ⟨heads, tails⟩ := List.cons.inj same
          rcases List.mem_cons.mp member with rfl | behind
          · exact ⟨partner, List.mem_cons_self, heads.symm⟩
          · obtain ⟨found, listed, agree⟩ := ih tails behind
            exact ⟨found, List.mem_cons_of_mem _ listed, agree⟩

namespace GrantedRun
variable {settings : BuildSettings} {config : Config}

/-- Every controller of the configuration is declared by an option of its own. -/
theorem exists_declaration (run : GrantedRun settings config) {controller : Category × Device}
    (listed : controller ∈ config.members) {id : String}
    (provides : controller.2.controllerId? = some id)
    : ∃ own,
        (some controller, .setting .device own) ∈ sourcedOptions settings config
        ∧ id ∈ valuesUnder "id" own := by
  obtain ⟨step, placed, same⟩ :=
    exists_mem_zip (config.members_snd.trans run.steps_devices.symm) listed
  obtain ⟨grants, granted, rendered⟩ := run.step_granted (List.of_mem_zip placed).2
  obtain ⟨own, declared, named⟩ := step.exists_declaration granted
    (same.symm ▸ provides) (step.planned.placement config.knobs.iommuPlatform)
    settings.architecture
  refine ⟨own, ?_, named⟩
  rw [run.sourcedOptions_eq]
  refine List.mem_flatMap.mpr ⟨.devices, by decide, mem_withSources.mpr ?_⟩
  refine ⟨step.options, ?_, rendered ▸ declared⟩
  rw [run.groups_devices, Stage.sources, List.zip_map]
  exact List.mem_map.mpr ⟨(controller, step), placed, rfl⟩

/-- A controller is declared before an option that refers to its bus exactly if its category is
rendered first: options stand in the order of the categories, and the declaration is one of
them.
-/
theorem exists_earlier_iff (run : GrantedRun settings config)
    {earlier later : List (Option (Category × Device) × LaunchOption)}
    {user controller : Category × Device} {params : List Param} {id : String}
    (split
      : sourcedOptions settings config
        = earlier ++ (some user, .setting .device params) :: later)
    (refers : RefersTo config user params controller id)
    : (∃ own, (some controller, .setting .device own) ∈ earlier ∧ id ∈ valuesUnder "id" own)
      ↔ controller.1.rank < user.1.rank := by
  have sorted := run.sourcedOptions_pairwise
  rw [split, List.pairwise_append, List.pairwise_cons] at sorted
  obtain ⟨_, ⟨behind, _⟩, across⟩ := sorted
  constructor
  · rintro ⟨own, member, _⟩
    have below : controller.1.rank ≤ user.1.rank :=
      across _ member _ List.mem_cons_self controller rfl user rfl
    exact Nat.lt_of_le_of_ne below (mt Category.rank_injective refers.apart)
  · intro first
    obtain ⟨own, declared, named⟩ := run.exists_declaration refers.listed refers.provides
    refine ⟨own, ?_, named⟩
    rw [split] at declared
    rcases List.mem_append.mp declared with before | here
    · exact before
    · rcases List.mem_cons.mp here with same | after
      · cases same
        exact absurd rfl refers.apart
      · have above : user.1.rank ≤ controller.1.rank :=
          behind _ after user rfl controller rfl
        exact absurd first (Nat.not_lt.mpr above)

end GrantedRun

/-- Where the controllers of an assembly stand that its devices refer to. -/
structure BusOrder (settings : BuildSettings) (config : Config) (invocation : Invocation)
    : Prop where
  options : (sourcedOptions settings config).map Prod.snd = invocation.options
  declared
    : ∀ controller ∈ config.members, ∀ id ∈ controller.2.controllerId?,
        ∃ own,
          (some controller, .setting .device own) ∈ sourcedOptions settings config
          ∧ id ∈ valuesUnder "id" own
  /-- A single reference is in order exactly if the category of the controller comes first. -/
  reference
    : ∀ earlier user params later,
        sourcedOptions settings config
            = earlier ++ (some user, .setting .device params) :: later
          → ∀ controller id,
              RefersTo config user params controller id
              → ((∃ own,
                    (some controller, .setting .device own) ∈ earlier
                    ∧ id ∈ valuesUnder "id" own)
                  ↔ controller.1.rank < user.1.rank)
  /-- All references are in order exactly if none of them goes to a later category. -/
  all
    : BusesPrecede settings config
      ↔ ∀ user params,
          (some user, .setting .device params) ∈ sourcedOptions settings config
          → ∀ controller id,
              RefersTo config user params controller id
              → controller.1.rank < user.1.rank

/-- In an assembly that succeeds, controllers precede the devices on their buses exactly as far
as their categories do.
-/
theorem busOrder_of_build {settings : BuildSettings} {config : Config}
    {invocation : Invocation} (built : (build settings config).outcome = .ok invocation)
    : BusOrder settings config invocation := by
  obtain ⟨_, run, rfl⟩ := build_ok_iff.mp built
  constructor
  case options => exact run.map_snd_sourcedOptions
  case declared =>
    intro controller listed id provides
    exact run.exists_declaration listed provides
  case reference =>
    intro earlier user params later split controller id refers
    exact run.exists_earlier_iff split refers
  case all =>
    constructor
    · intro precede user params member controller id refers
      obtain ⟨earlier, later, split⟩ := List.append_of_mem member
      exact (run.exists_earlier_iff split refers).mp
        (precede earlier user params later split controller id refers)
    · intro ranked earlier user params later split controller id refers
      have member : (some user, .setting .device params) ∈ sourcedOptions settings config := by
        rw [split]
        exact List.mem_append_right _ List.mem_cons_self
      exact (run.exists_earlier_iff split refers).mpr
        (ranked user params member controller id refers)

/-- A guest with a disk on the bus of a controller and a network card behind a root port. -/
def tieredGuest : Config where
  rootPorts := [{ id := "rp0" }]
  scsiControllers := [{ id := "scsi0", bus := "rp0" }]
  disks :=
    [{ driver := "scsi-hd", id := "d0", file := "/var/disk.img", interface := "none",
       format := "raw", bus := "scsi0.0" }]

/-- The controllers of the guest with tiers stand in the order of their categories. -/
theorem busOrder_tieredGuest
    : ∃ invocation,
        (build {} tieredGuest).outcome = .ok invocation
        ∧ BusOrder {} tieredGuest invocation := by
  have succeeds : (build {} tieredGuest).outcome.toOption.isSome = true := by
    decide +kernel
  obtain ⟨invocation, built⟩ := BuildReport.exists_invocation succeeds
  exact ⟨invocation, built, busOrder_of_build built⟩

/-- The port of a character device on the bus of a serial controller. -/
def portOnBus : CharDevice where
  driver := "virtserialport"
  bus := "vs0.0"
  deviceId := "port0"
  id := "c0"
  path := "/run/c0.sock"

/-- A guest with a port on the bus of a controller whose category is rendered later. -/
def lateControllerGuest : Config where
  charDevices := [portOnBus]
  virtioSerials := [{ driver := "virtio-serial", id := "vs0" }]

/-- The port stands first on the command line, before the controller on whose bus it is. -/
theorem not_busesPrecede_lateControllerGuest
    : ∃ invocation,
        (build {} lateControllerGuest).outcome = .ok invocation
        ∧ (sourcedOptions {} lateControllerGuest).map Prod.snd = invocation.options
        ∧ ¬BusesPrecede {} lateControllerGuest := by
  have succeeds : (build {} lateControllerGuest).outcome.toOption.isSome = true := by
    decide +kernel
  obtain ⟨invocation, built⟩ := BuildReport.exists_invocation succeeds
  obtain ⟨_, run, rfl⟩ := build_ok_iff.mp built
  refine ⟨_, built, run.map_snd_sourcedOptions, ?_⟩
  intro precede
  have first : sourcedOptions {} lateControllerGuest
      = [] ++ (some (.char, .char portOnBus),
            .setting .device (portOnBus.deviceParams { transport := .pci }))
          :: (sourcedOptions {} lateControllerGuest).tail := by
    decide +kernel
  have refers : RefersTo lateControllerGuest (.char, .char portOnBus)
      (portOnBus.deviceParams { transport := .pci })
      (.virtioSerial, .virtioSerial { driver := "virtio-serial", id := "vs0" }) "vs0" := by
    constructor
    case listed => decide
    case apart => decide
    case provides => rfl
    case named => exact ⟨"vs0.0", rfl, Or.inr ⟨"0", by decide, by decide, rfl⟩, by decide⟩
  obtain ⟨own, member, _⟩ := precede _ _ _ _ first _ _ refers
  cases member

end GuestLaunch
