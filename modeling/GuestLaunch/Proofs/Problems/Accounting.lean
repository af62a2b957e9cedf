import GuestLaunch.Proofs.DeviceOrder.Members
import GuestLaunch.Proofs.Problems.DeviceChecks
import GuestLaunch.Proofs.Resources.AssemblyRun
import Mathlib.Algebra.BigOperators.Group.List.Basic
import Mathlib.Data.List.Count
import Mathlib.Data.List.Dedup
import Mathlib.Data.List.Nodup

/-!
The account of validation: one problem for each check that fails, one for each time that an
identifier repeats an earlier one of its category, and no others. Checks never report a
repetition themselves, so the two sorts of problems can be told apart.
-/

namespace GuestLaunch

-----------------------------------------------------------------------------------------
-- What is checked, and what repeats
-----------------------------------------------------------------------------------------

/-- The label that all devices of a category share. -/
def Category.deviceLabel : Category → String
  | rootPort => RootPort.label
  | bridge => Bridge.label
  | scsi => ScsiController.label
  | ide => PciController.ideLabel
  | usb => PciController.usbLabel
  | disk => Disk.label
  | char => CharDevice.label
  | legacySerial => LegacySerial.label
  | monitor => Monitor.label
  | net => NetDevice.label
  | entropy => EntropySource.label
  | balloon => Balloon.label
  | virtioSerial => VirtioSerial.label
  | flash => FlashPair.label

namespace Config

/-- The checks before those of the devices: of the values and switches of the machine, the
display, the module, the BIOS table, each memory device, and each control socket.
-/
def settingChecks (config : Config) : List (Option Problem) :=
  config.machine.checks
    ++ [config.spice.bind Spice.problem?, config.tpm.bind Tpm.problem?]
    ++ config.smbios.bios.problem? :: config.smbios.memory.map Smbios.MemoryDevice.problem?
    ++ config.controlSockets.map ControlSocket.problem?

/-- All checks: of the settings, of each device, and of the processors. -/
def elementChecks (config : Config) : List (Option Problem) :=
  config.settingChecks ++ config.devices.map Device.problem? ++ [config.processors.problem?]

/-- The identifiers that the devices of a category have, in their order. -/
def idsOf (config : Config) (category : Category) : List String :=
  (category.devices config).filterMap Device.id?

/-- The identifier fields of the devices of a category; serial ports, monitors and firmware have
none.
-/
def idFields (config : Config) : Category → List String
  | .rootPort => config.rootPorts.map RootPort.id
  | .bridge => config.bridges.map Bridge.id
  | .scsi => config.scsiControllers.map ScsiController.id
  | .ide => config.ideControllers.map PciController.id
  | .usb => config.usbControllers.map PciController.id
  | .disk => config.disks.map Disk.id
  | .char => config.charDevices.map CharDevice.id
  | .legacySerial => []
  | .monitor => []
  | .net => config.netDevices.map NetDevice.id
  | .entropy => config.entropySources.map EntropySource.id
  | .balloon => config.balloons.map Balloon.id
  | .virtioSerial => config.virtioSerials.map VirtioSerial.id
  | .flash => []

end Config

/-- Every identifier of a list as often as it repeats: once less than it occurs. -/
def surplusIds (ids : List String) : List String :=
  ids.dedup.flatMap fun id => List.replicate (ids.count id - 1) id

/-- The report of every repetition in a configuration, category by category. -/
def Config.repetitions (config : Config) : List Problem :=
  Category.all.flatMap fun category =>
    (surplusIds (config.idsOf category)).map (.duplicateId category.deviceLabel)

-----------------------------------------------------------------------------------------
-- Checks report no repetition
-----------------------------------------------------------------------------------------

section Checks
variable {label subject field value first second id : String}

@[simp] theorem checkPresent_ne_duplicateId
    : checkPresent subject field value ≠ some (.duplicateId label id) := by
  simp [checkPresent]

@[simp] theorem checkOneOf_ne_duplicateId {allowed : List String} {expected : String}
    : checkOneOf subject field value allowed expected ≠ some (.duplicateId label id) := by
  simp [checkOneOf]

@[simp] theorem checkOnOff_ne_duplicateId
    : checkOnOff subject field value ≠ some (.duplicateId label id) :=
  checkOneOf_ne_duplicateId

@[simp] theorem checkExactlyOne_ne_duplicateId {firstSet secondSet : Bool}
    : checkExactlyOne subject first second firstSet secondSet
      ≠ some (.duplicateId label id) := by
  cases firstSet <;> cases secondSet <;> simp [checkExactlyOne]

@[simp] theorem BootIndex.check_ne_duplicateId {configured : Option String}
    : BootIndex.check subject configured ≠ some (.duplicateId label id) := by
  cases configured <;> simp [BootIndex.check]

theorem Endpoint.problem?_ne_duplicateId (endpoint : Endpoint)
    : endpoint.problem? subject ≠ some (.duplicateId label id) := by
  unfold Endpoint.problem?
  split <;> simp

theorem Spice.problem?_ne_duplicateId (spice : Spice)
    : spice.problem? ≠ some (.duplicateId label id) := by
  simp [Spice.problem?]

theorem Tpm.problem?_ne_duplicateId (tpm : Tpm)
    : tpm.problem? ≠ some (.duplicateId label id) := by
  simp [Tpm.problem?]

/-- The check of a device reports no repetition, by the kinds of devices. -/
theorem Device.problem?_ne_duplicateId (device : Device)
    : device.problem? ≠ some (.duplicateId label id) := by
  cases device with
  | rootPort port => simp [Device.problem?, RootPort.problem?]
  | bridge bridge => simp [Device.problem?, Bridge.problem?]
  | scsi controller => simp [Device.problem?, ScsiController.problem?]
  | ide controller => simp [Device.problem?, PciController.problem?]
  | usb controller => simp [Device.problem?, PciController.problem?]
  | disk disk => simp [Device.problem?, Disk.problem?, Disk.checkRotation]
  | char device => simp [Device.problem?, CharDevice.problem?]
  | legacySerial port =>
      simp [Device.problem?, LegacySerial.problem?, Endpoint.problem?_ne_duplicateId]
  | monitor monitor => exact monitor.endpoint.problem?_ne_duplicateId
  | net device =>
      simp [Device.problem?, NetDevice.problem?, NetDevice.checkType, NetDevice.checkTap,
        NetDevice.checkMulticast]
  | entropy source => simp [Device.problem?, EntropySource.problem?]
  | balloon balloon => simp [Device.problem?, Balloon.problem?]
  | virtioSerial controller => simp [Device.problem?, VirtioSerial.problem?]
  | flash pair => simp [Device.problem?, FlashPair.problem?]
  | spice spice => exact spice.problem?_ne_duplicateId
  | tpm tpm => exact tpm.problem?_ne_duplicateId

theorem Smbios.Bios.problem?_ne_duplicateId (table : Smbios.Bios)
    : table.problem? ≠ some (.duplicateId label id) := by
  simp [Smbios.Bios.problem?, Smbios.Bios.checkRelease, Smbios.Bios.checkUefi]

/-- No check of a part of a configuration reports a repetition. -/
theorem Config.duplicateId_notMem_elementChecks (config : Config)
    : some (.duplicateId label id) ∉ config.elementChecks := by
  have machine : some (.duplicateId label id) ∉ config.machine.checks := by
    simp [Machine.checks, eq_comm (a := some (Problem.duplicateId label id))]
  simp [Config.elementChecks, Config.settingChecks, machine, Option.bind_eq_some_iff,
    Spice.problem?_ne_duplicateId, Tpm.problem?_ne_duplicateId,
    Smbios.Bios.problem?_ne_duplicateId, Smbios.MemoryDevice.problem?, ControlSocket.problem?,
    Device.problem?_ne_duplicateId, Processors.problem?,
    eq_comm (a := some (Problem.duplicateId label id))]

end Checks

-----------------------------------------------------------------------------------------
-- Counting
-----------------------------------------------------------------------------------------

/-- Where only one item gives a value, the value occurs as often as that item gives it, once
for each time that the item is listed.
-/
theorem count_flatMap_of_apart {Item Value : Type} [DecidableEq Item]
    [DecidableEq Value] {items : List Item} {give : Item → List Value} {value : Value}
    (item : Item) (apart : ∀ other, other ≠ item → value ∉ give other)
    : (items.flatMap give).count value = items.count item * (give item).count value := by
  rw [List.count_flatMap]
  have single := List.sum_map_eq_nsmul_single (l := items) item
    (fun other => (give other).count value)
    (fun other different _ => List.count_eq_zero.mpr (apart other different))
  simpa [Function.comp_def] using single

/-- An identifier is surplus once less than it occurs. -/
theorem count_surplusIds (ids : List String) (id : String)
    : (surplusIds ids).count id = ids.count id - 1 := by
  have apart : ∀ other, other ≠ id → id ∉ List.replicate (ids.count other - 1) other := by
    intro other different member
    exact different (List.eq_of_mem_replicate member).symm
  rw [surplusIds, count_flatMap_of_apart id apart, List.count_replicate_self,
    List.count_dedup]
  split
  · simp
  · rename_i absent
    simp [List.count_eq_zero.mpr absent]

/-- The identifiers that repeat one of those before them. -/
def repeatedIds (seen : List String) : List String → List String
  | [] => []
  | id :: rest =>
      if id ∈ seen then id :: repeatedIds (id :: seen) rest else repeatedIds (id :: seen) rest

/-- An identifier that came before repeats each time, and any other each time but the first, by
induction on the identifiers.
-/
theorem count_repeatedIds (seen ids : List String) (id : String)
    : (repeatedIds seen ids).count id
      = if id ∈ seen then ids.count id else ids.count id - 1 := by
  induction ids generalizing seen with
  | nil => simp [repeatedIds]
  | cons head rest ih =>
      by_cases same : head = id
      · subst same
        by_cases known : head ∈ seen <;> simp [repeatedIds, known, ih]
      · have others : id ∈ head :: seen ↔ id ∈ seen := by
          simp [Ne.symm same]
        by_cases known : head ∈ seen <;> simp [repeatedIds, known, ih, others, same]

theorem repeatedIds_perm (ids : List String)
    : (repeatedIds [] ids).Perm (surplusIds ids) :=
  List.perm_iff_count.mpr fun id => by
    rw [count_repeatedIds, count_surplusIds, if_neg List.not_mem_nil]

-----------------------------------------------------------------------------------------
-- The problems of the devices
-----------------------------------------------------------------------------------------

/-- A device reports the failure of its check and then what it repeats. -/
theorem exists_reported {label : String} (seen : List String) (device : Device)
    (rest : List Device) (own : device.label = label)
    : ∃ repeated : List String,
        categoryProblems seen (device :: rest)
            = device.problem?.toList
              ++ (repeated.map (.duplicateId label)
                ++ categoryProblems (device.id?.toList ++ seen) rest)
          ∧ repeatedIds seen ((device :: rest).filterMap Device.id?)
            = repeated
              ++ repeatedIds (device.id?.toList ++ seen) (rest.filterMap Device.id?) := by
  cases named : device.id? with
  | none => exact ⟨[], by simp [categoryProblems, named]⟩
  | some id =>
      by_cases known : id ∈ seen
      · exact ⟨[id], by simp [categoryProblems, repeatedIds, named, known, own]⟩
      · exact ⟨[], by simp [categoryProblems, repeatedIds, named, known]⟩

theorem problemsOf_nil : problemsOf [] = [] := rfl

theorem problemsOf_append (first second : List (Option Problem))
    : problemsOf (first ++ second) = problemsOf first ++ problemsOf second :=
  List.filterMap_append

theorem problemsOf_cons (check : Option Problem) (checks : List (Option Problem))
    : problemsOf (check :: checks) = check.toList ++ problemsOf checks := by
  cases check <;> rfl

/-- The problems of the devices of a category are those of their checks and the repetitions, by
induction on the devices.
-/
theorem categoryProblems_perm {label : String} (seen : List String) {devices : List Device}
    (labelled : ∀ device ∈ devices, device.label = label)
    : (categoryProblems seen devices).Perm
        (problemsOf (devices.map Device.problem?)
          ++ (repeatedIds seen (devices.filterMap Device.id?)).map (.duplicateId label)) := by
  induction devices generalizing seen with
  | nil => exact .refl _
  | cons device rest ih =>
      obtain ⟨own, others⟩ := List.forall_mem_cons.mp labelled
      obtain ⟨repeated, reported, listed⟩ := exists_reported seen device rest own
      rw [reported, listed, List.map_cons, problemsOf_cons, List.map_append, List.append_assoc]
      refine .append_left _ ?_
      exact ((ih _ others).append_left _).trans (List.perm_append_comm_assoc ..)

theorem Category.label_of_mem {config : Config} {category : Category} {device : Device}
    (member : device ∈ category.devices config)
    : device.label = category.deviceLabel := by
  cases category <;>
    (obtain ⟨_, _, rfl⟩ := List.mem_map.mp member; rfl)

/-- No two categories have devices with the same label. -/
theorem Category.deviceLabel_injective {first second : Category}
    (same : first.deviceLabel = second.deviceLabel)
    : first = second :=
  List.inj_on_of_nodup_map (f := deviceLabel) (l := Category.all) (by decide)
    (mem_all first) (mem_all second) same

/-- The problems of one category. -/
theorem Category.problems_perm (config : Config) (category : Category)
    : (categoryProblems [] (category.devices config)).Perm
        (problemsOf ((category.devices config).map Device.problem?)
          ++ (surplusIds (config.idsOf category)).map (.duplicateId category.deviceLabel)) :=
  (categoryProblems_perm [] fun _ member => label_of_mem member).trans
    (((repeatedIds_perm _).map _).append_left _)

-----------------------------------------------------------------------------------------
-- The account of a configuration
-----------------------------------------------------------------------------------------

namespace Config

/-- The identifiers of devices with an identifier field are those that are not empty, by induction
on the devices.
-/
theorem filterMap_id?_map {α : Type} {device : α → Device} {field : α → String}
    (own : ∀ item, (device item).idField? = some (field item)) (items : List α)
    : (items.map device).filterMap Device.id?
      = (items.map field).filter fun id => id ≠ "" := by
  induction items with
  | nil => rfl
  | cons item rest ih =>
      rw [List.map_cons, List.map_cons]
      by_cases empty : field item = ""
      · have unset : (device item).id? = none := by simp [Device.id?, own, empty]
        rw [List.filterMap_cons_none unset, ih, List.filter_cons_of_neg (by simpa using empty)]
      · have set : (device item).id? = some (field item) := by
          simp [Device.id?, own, empty, Option.filter]
        rw [List.filterMap_cons_some set, ih, List.filter_cons_of_pos (by simpa using empty)]

/-- The identifiers of a category are those of its fields that are not empty, by the category. -/
theorem idsOf_eq (config : Config) (category : Category)
    : config.idsOf category = (config.idFields category).filter fun id => id ≠ "" := by
  cases category with
  | legacySerial | monitor | flash =>
      refine List.filterMap_eq_nil_iff.mpr fun device member => ?_
      obtain ⟨_, _, rfl⟩ := List.mem_map.mp member
      rfl
  | _ => exact filterMap_id?_map (fun _ => rfl) _

/-- The problems of all devices. -/
theorem deviceProblems_perm (config : Config)
    : (Category.all.flatMap fun category => categoryProblems [] (category.devices config)).Perm
        (problemsOf (config.devices.map Device.problem?) ++ config.repetitions) := by
  have checked : problemsOf (config.devices.map Device.problem?)
      = Category.all.flatMap fun category =>
          problemsOf ((category.devices config).map Device.problem?) := by
    simp [problemsOf, devices, List.filterMap_flatMap]
  rw [checked]
  exact (List.Perm.flatMap_left _ fun category _ => category.problems_perm config).trans
    (List.flatMap_append_perm _ _ _).symm

/-- A configuration has the problems that its checks find and its repetitions. -/
theorem problems_perm (config : Config)
    : config.problems.Perm (problemsOf config.elementChecks ++ config.repetitions) := by
  have settings : config.problems
      = problemsOf config.settingChecks
        ++ ((Category.all.flatMap fun category =>
            categoryProblems [] (category.devices config))
          ++ problemsOf [config.processors.problem?]) := by
    simp [problems, settingChecks, Machine.problems, Smbios.problems, problemsOf_append,
      problemsOf_cons, problemsOf_nil]
  have elements : problemsOf config.elementChecks
      = problemsOf config.settingChecks
        ++ (problemsOf (config.devices.map Device.problem?)
          ++ problemsOf [config.processors.problem?]) := by
    simp only [elementChecks, problemsOf_append, List.append_assoc]
  rw [settings, elements, List.append_assoc]
  refine .append_left _ ?_
  refine (config.deviceProblems_perm.append_right _).trans ?_
  rw [List.append_assoc, List.append_assoc]
  exact List.perm_append_comm.append_left _

/-- The problems that checks find hold no repetition. -/
theorem duplicateId_notMem_problemsOf (config : Config) (label id : String)
    : .duplicateId label id ∉ problemsOf config.elementChecks := by
  simp [problemsOf, config.duplicateId_notMem_elementChecks]

/-- A repetition in a category is reported once less than its identifier occurs there. -/
theorem count_repetitions (config : Config) (category : Category) (id : String)
    : config.repetitions.count (.duplicateId category.deviceLabel id)
      = (config.idsOf category).count id - 1 := by
  have apart : ∀ other, other ≠ category →
      Problem.duplicateId category.deviceLabel id
        ∉ (surplusIds (config.idsOf other)).map (Problem.duplicateId other.deviceLabel) := by
    intro other different member
    obtain ⟨_, _, same⟩ := List.mem_map.mp member
    exact different (Category.deviceLabel_injective (Problem.duplicateId.inj same).1)
  have injective : Function.Injective (Problem.duplicateId category.deviceLabel) :=
    fun _ _ same => (Problem.duplicateId.inj same).2
  have listed : Category.all.count category = 1 := by
    cases category <;> rfl
  rw [repetitions, count_flatMap_of_apart category apart, listed, Nat.one_mul,
    List.count_map_of_injective _ _ injective, count_surplusIds]

end Config

/-- What validation reports for a configuration. -/
structure ProblemsAccounted (config : Config) : Prop where
  /-- The checks of the settings, among them one for each of the two values of the machine with
  three words and each of its nine switches.
  -/
  settings : SettingsChecked config
  /-- The check of a device passes exactly if the device is what its kind has to be. -/
  devices : ∀ device ∈ config.devices, device.problem? = none ↔ device.WellFormed
  /-- The identifiers of a category are those of its identifier fields that are set. -/
  identifiers
    : ∀ category, config.idsOf category = (config.idFields category).filter fun id => id ≠ ""
  /-- Each problem is that of one check that fails or one of the repetitions, and all of these
  are reported.
  -/
  account : config.problems.Perm (problemsOf config.elementChecks ++ config.repetitions)
  /-- No check reports a repetition. -/
  apart : ∀ label id, some (.duplicateId label id) ∉ config.elementChecks
  /-- A repetition is reported once less than its identifier occurs in its category. -/
  repeated : ∀ category id,
    config.problems.count (.duplicateId category.deviceLabel id)
      = (config.idsOf category).count id - 1
  /-- In a configuration that builds, the identifiers of each category are distinct. -/
  distinct : ∀ settings invocation, (build settings config).outcome = .ok invocation →
    ∀ category, (config.idsOf category).Nodup

/-- Validation reports the failure of every check and every repetition once, and nothing else. -/
theorem Config.problems_accounted (config : Config)
    : ProblemsAccounted config := by
  constructor
  case settings => exact config.settingsChecked
  case devices =>
    intro device member
    exact device.problem?_eq_none_iff
  case identifiers =>
    intro category
    exact config.idsOf_eq category
  case account => exact config.problems_perm
  case apart =>
    intro label id
    exact config.duplicateId_notMem_elementChecks
  case repeated =>
    intro category id
    rw [config.problems_perm.count_eq, List.count_append, config.count_repetitions,
      List.count_eq_zero.mpr (config.duplicateId_notMem_problemsOf _ id), Nat.zero_add]
  case distinct =>
    intro settings invocation built category
    exact ids_nodup_of_valid (build_ok_iff.mp built).1 category

-- A device that fails its own check still counts as a holder of its identifier.
example :
    ({ entropySources :=
        [{ id := "rng0" }, { id := "rng0", driver := "virtio-rng" },
          { id := "rng0", driver := "virtio-rng" }] } : Config).problems
      = [.missing "RngDevice" "driver", .duplicateId "RngDevice" "rng0",
          .duplicateId "RngDevice" "rng0"] := by
  decide

end GuestLaunch
