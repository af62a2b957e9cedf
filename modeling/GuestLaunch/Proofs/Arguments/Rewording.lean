import GuestLaunch.Proofs.Arguments.Reading
import GuestLaunch.Proofs.Placement.RenderTrace

/-!
Command lines of configurations that differ in their wording. A text that is free reaches the
command line inside the value of one flag only, so which flags there are is a matter of the
outline of a configuration, in which these texts are blotted out.
-/

namespace GuestLaunch

-----------------------------------------------------------------------------------------
-- Outlines
-----------------------------------------------------------------------------------------

/-- A fixed text in place of any text that is not empty. -/
def Text.outline (text : String) : String := if text.isEmpty then "" else "text"

@[simp] theorem Text.isEmpty_outline (text : String)
    : (Text.outline text).isEmpty = text.isEmpty := by
  unfold Text.outline
  cases text.isEmpty <;> decide

/-- Two texts have the same outline exactly if both are empty or none is. -/
theorem Text.outline_eq_iff {first second : String}
    : Text.outline first = Text.outline second ↔ first.isEmpty = second.isEmpty := by
  unfold Text.outline
  cases first.isEmpty <;> cases second.isEmpty <;> decide

/-- A disk with its image and its serial number blotted out. -/
def Disk.outline (disk : Disk) : Disk :=
  { disk with file := Text.outline disk.file, serial := Text.outline disk.serial }

/-- A firmware with the paths of its images blotted out. -/
def FlashPair.outline (pair : FlashPair) : FlashPair where
  code := Text.outline pair.code
  store := Text.outline pair.store

/-- A direct boot with its paths and its parameters blotted out. -/
def KernelBoot.outline (boot : KernelBoot) : KernelBoot where
  path := Text.outline boot.path
  initrdPath := Text.outline boot.initrdPath
  params := Text.outline boot.params

/-- A configuration with the free texts blotted out. -/
def Config.outline (config : Config) : Config :=
  { config with
    name := Text.outline config.name
    uuid := Text.outline config.uuid
    cpuModel := Text.outline config.cpuModel
    kernel := config.kernel.outline
    bios := Text.outline config.bios
    vga := Text.outline config.vga
    pidFile := Text.outline config.pidFile
    logFile := Text.outline config.logFile
    sandbox := Text.outline config.sandbox
    globalParams := config.globalParams.map Text.outline
    flashImages := config.flashImages.map Text.outline
    disks := config.disks.map Disk.outline
    flashPairs := config.flashPairs.map FlashPair.outline }

/-- One configuration rewords another: they differ in nothing but the contents of free texts,
and each of these is empty in both or in none.
-/
def Config.Rewords (config other : Config) : Prop := config.outline = other.outline

instance decidableRewords (config other : Config) : Decidable (config.Rewords other) :=
  inferInstanceAs (Decidable (_ = _))

-----------------------------------------------------------------------------------------
-- Devices
-----------------------------------------------------------------------------------------

theorem checkPresent_outline (subject field text : String)
    : checkPresent subject field (Text.outline text) = checkPresent subject field text := by
  rw [checkPresent, checkPresent, Text.isEmpty_outline]

namespace Device

/-- A device with its free texts blotted out. -/
def outline : Device → Device
  | disk device => disk device.outline
  | flash device => flash device.outline
  | device => device

theorem label_outline (device : Device) : device.outline.label = device.label := by
  cases device <;> rfl

theorem id?_outline (device : Device) : device.outline.id? = device.id? := by
  cases device <;> rfl

theorem transport?_outline (device : Device)
    : device.outline.transport? = device.transport? := by
  cases device <;> rfl

theorem explicitBootIndex?_outline (device : Device)
    : device.outline.explicitBootIndex? = device.explicitBootIndex? := by
  cases device <;> rfl

theorem requests_outline (device : Device) (transport : Transport)
    : device.outline.requests transport = device.requests transport := by
  cases device <;> rfl

/-- The check of a device asks of a free text only whether it is empty. -/
theorem problem?_outline (device : Device) : device.outline.problem? = device.problem? := by
  cases device with
  | disk device =>
      show device.outline.problem? = device.problem?
      rw [Disk.problem?, Disk.problem?]
      simp only [Disk.outline, checkPresent_outline]
      rfl
  | flash device =>
      show device.outline.problem? = device.problem?
      simp only [FlashPair.problem?, FlashPair.outline, checkPresent_outline]
  | _ => rfl

/-- The flags of a device do not depend on its free texts. -/
theorem words_optionsFor_outline (device : Device) (placement : Placement)
    (architecture : Architecture) (grants : List Grant)
    : (device.outline.optionsFor placement architecture grants).map LaunchOption.word
      = (device.optionsFor placement architecture grants).map LaunchOption.word := by
  cases device with
  | disk device =>
      show (device.outline.optionsFor placement grants).map LaunchOption.word
        = (device.optionsFor placement grants).map LaunchOption.word
      rw [Disk.optionsFor, Disk.optionsFor]
      have alone : device.outline.driveOnly = device.driveOnly := rfl
      cases only : device.driveOnly with
      | true => simp only [alone, only, if_true]; rfl
      | false => simp only [alone, only, Bool.false_eq_true, if_false]; rfl
  | _ => rfl

end Device

theorem Category.devices_outline (category : Category) (config : Config)
    : category.devices config.outline = (category.devices config).map Device.outline := by
  cases category
  all_goals
    simp only [devices, Config.outline, List.map_map]
    rfl

theorem Config.devices_outline (config : Config)
    : config.outline.devices = config.devices.map Device.outline := by
  rw [Config.devices, Config.devices, List.map_flatMap, List.flatMap_def, List.flatMap_def]
  congr 1
  exact List.map_congr_left fun category _ => category.devices_outline config

-----------------------------------------------------------------------------------------
-- Problems and requests
-----------------------------------------------------------------------------------------

/-- The problems of devices do not depend on their free texts, by induction on the devices. -/
theorem categoryProblems_outline (seen : List String) (devices : List Device)
    : categoryProblems seen (devices.map Device.outline) = categoryProblems seen devices := by
  induction devices generalizing seen with
  | nil => rfl
  | cons device rest ih =>
      rw [List.map_cons, categoryProblems, categoryProblems]
      simp only [device.problem?_outline, device.id?_outline, device.label_outline, ih]

namespace Config

theorem problems_outline (config : Config) : config.outline.problems = config.problems := by
  have devices
      : Category.all.flatMap
          (fun category => categoryProblems [] (category.devices config.outline))
        = Category.all.flatMap
            (fun category => categoryProblems [] (category.devices config)) := by
    simp only [Category.devices_outline, categoryProblems_outline]
  rw [problems, problems, devices]
  rfl

theorem reserveRequests_outline (config : Config)
    : config.outline.reserveRequests = config.reserveRequests := by
  have explicit : Device.explicitBootIndex? ∘ Device.outline = Device.explicitBootIndex? :=
    funext Device.explicitBootIndex?_outline
  rw [reserveRequests, reserveRequests, explicitBootIndices, explicitBootIndices,
    devices_outline, List.filterMap_map, explicit]

end Config

-----------------------------------------------------------------------------------------
-- Plans and runs
-----------------------------------------------------------------------------------------

/-- A planned device with its free texts blotted out. -/
def PlannedDevice.outline (planned : PlannedDevice) : PlannedDevice :=
  { planned with device := planned.device.outline }

theorem PlannedDevice.requests_outline (planned : PlannedDevice)
    : planned.outline.requests = planned.requests :=
  planned.device.requests_outline planned.transport

theorem Config.plan_outline (config : Config) (host : Host)
    : config.outline.plan host = (config.plan host).map PlannedDevice.outline := by
  rw [plan, plan, devices_outline, List.map_map, List.map_map]
  refine List.map_congr_left fun device _ => ?_
  show PlannedDevice.of host device.outline = (PlannedDevice.of host device).outline
  rw [PlannedDevice.of, device.transport?_outline]
  rfl

theorem Config.requests_outline (config : Config) (host : Host)
    : config.outline.requests host = config.requests host := by
  have same : PlannedDevice.requests ∘ PlannedDevice.outline = PlannedDevice.requests :=
    funext PlannedDevice.requests_outline
  have plan : (config.outline.plan host).flatMap PlannedDevice.requests
      = (config.plan host).flatMap PlannedDevice.requests := by
    rw [plan_outline, List.flatMap_def, List.map_map, same, List.flatMap_def]
  rw [requests, requests, reserveRequests_outline, plan]
  rfl

/-- A plan is granted the same without its free texts, by induction on the plan. -/
theorem PlanGranted.outline {state final : RunState} {plan : List PlannedDevice}
    {grants : List (List Grant)} (h : PlanGranted state plan grants final)
    : PlanGranted state (plan.map PlannedDevice.outline) grants final := by
  induction h with
  | nil => exact .nil
  | @cons _ _ _ planned _ _ _ first _ ih =>
      exact .cons (by rw [planned.requests_outline]; exact first) ih

theorem words_planOptions_outline (architecture : Architecture) (iommuPlatform : Bool)
    (plan : List PlannedDevice) (grants : List (List Grant))
    : (planOptions architecture iommuPlatform (plan.map PlannedDevice.outline) grants).map
          (List.map LaunchOption.word)
      = (planOptions architecture iommuPlatform plan grants).map
          (List.map LaunchOption.word) := by
  rw [planOptions, List.zipWith_map_left, List.map_zipWith, List.map_zipWith]
  congr 1
  funext planned own
  exact planned.device.words_optionsFor_outline (planned.placement iommuPlatform)
    architecture own

-----------------------------------------------------------------------------------------
-- Stages
-----------------------------------------------------------------------------------------

theorem LaunchOption.words_unlessEmpty_outline (flag : Flag) (text : String)
    : (unlessEmpty flag (Text.outline text)).map word = (unlessEmpty flag text).map word := by
  rw [unlessEmpty, unlessEmpty, Text.isEmpty_outline]
  cases text.isEmpty <;> rfl

/-- The flags of texts that are present unless empty do not depend on the texts, by induction
on them.
-/
theorem LaunchOption.words_flatMap_outline (flag : Flag) (texts : List String)
    : ((texts.map Text.outline).flatMap (unlessEmpty flag)).map word
      = (texts.flatMap (unlessEmpty flag)).map word := by
  induction texts with
  | nil => rfl
  | cons text rest ih =>
      rw [List.map_cons, List.flatMap_cons, List.flatMap_cons, List.map_append,
        List.map_append, ih, words_unlessEmpty_outline]

/-- The flags of a stage that uses up nothing do not depend on free texts, by the stage. -/
theorem Stage.words_settings_outline (stage : Stage) (config : Config) (host : Host)
    : (stage.settings config.outline host).map LaunchOption.word
      = (stage.settings config host).map LaunchOption.word := by
  cases stage with
  | identity =>
      simp only [settings, Config.outline, List.map_append,
        LaunchOption.words_unlessEmpty_outline]
  | cpu =>
      simp only [settings, Config.cpuOptions, Config.outline, Text.isEmpty_outline]
      cases config.cpuModel.isEmpty <;> rfl
  | globals | flashImages => exact LaunchOption.words_flatMap_outline _ _
  | vga | bios | sandbox => exact LaunchOption.words_unlessEmpty_outline _ _
  | kernel =>
      simp only [settings, KernelBoot.launchOptions, Config.outline, KernelBoot.outline,
        Text.isEmpty_outline]
      cases config.kernel.path.isEmpty with
      | true => rfl
      | false =>
          simp only [Bool.false_eq_true, if_false, List.map_append,
            LaunchOption.words_unlessEmpty_outline]
          rfl
  | files =>
      simp only [settings, Config.outline, List.map_append,
        LaunchOption.words_unlessEmpty_outline]
  | _ => rfl

-----------------------------------------------------------------------------------------
-- Assemblies
-----------------------------------------------------------------------------------------

namespace GrantedRun
variable {settings : BuildSettings} {config : Config}

/-- The run that grants the same without the free texts. -/
def outline (run : GrantedRun settings config) : GrantedRun settings config.outline where
  reserved := run.reserved
  placed := run.placed
  final := run.final
  reservations := run.reservations
  grants := run.grants
  incoming := run.incoming
  reserve_granted := by
    rw [config.reserveRequests_outline]
    exact run.reserve_granted
  devices_granted := by
    rw [config.plan_outline]
    exact run.devices_granted.outline
  incoming_granted := run.incoming_granted

theorem words_groups_outline (run : GrantedRun settings config) (stage : Stage)
    : (run.outline.groups stage).map (List.map LaunchOption.word)
      = (run.groups stage).map (List.map LaunchOption.word) := by
  cases stage with
  | devices =>
      show (planOptions _ _ (config.outline.plan (settings.host config)) run.grants).map _ = _
      rw [config.plan_outline, words_planOptions_outline]
      rfl
  | incoming => rfl
  | _ => exact congrArg (fun words => [words]) (Stage.words_settings_outline _ config _)

/-- The flags of the invocation do not depend on free texts. -/
theorem words_outline (run : GrantedRun settings config)
    : run.outline.invocation.options.map LaunchOption.word
      = run.invocation.options.map LaunchOption.word := by
  show (Stage.all.flatMap fun stage => (run.outline.groups stage).flatten).map _
    = (Stage.all.flatMap fun stage => (run.groups stage).flatten).map _
  rw [List.map_flatMap, List.map_flatMap]
  simp only [List.map_flatten, words_groups_outline]

end GrantedRun

/-- The flags of an assembly that succeeds. -/
def BuildReport.words (report : BuildReport) : Except BuildFailure (List String) :=
  report.outcome.map fun invocation => invocation.options.map LaunchOption.word

/-- An assembly fails alike without the free texts, or succeeds with the same flags. -/
theorem build_words_outline (settings : BuildSettings) (config : Config)
    : (build settings config.outline).words = (build settings config).words := by
  have problems := config.problems_outline
  rw [BuildReport.words, BuildReport.words]
  rcases build_cases settings config with
    ⟨found, outcome⟩ | ⟨valid, run, outcome⟩ | ⟨valid, cause, final, refused, outcome⟩
  · rw [outcome, build_invalid_iff.mpr ⟨problems, found⟩]
  · rw [outcome, run.outline.build_outcome (problems.trans valid)]
    exact congrArg Except.ok run.words_outline
  · have requests := config.requests_outline (settings.host config)
    rw [outcome, Refused.build_outcome (requests ▸ refused) (problems.trans valid)]

/-- A configuration that rewords one that is assembled is assembled too, with the same flags.
-/
theorem Config.Rewords.exists_invocation {settings : BuildSettings} {config other : Config}
    {invocation : Invocation} (h : other.Rewords config)
    (built : (build settings config).outcome = .ok invocation)
    : ∃ again,
        (build settings other).outcome = .ok again
        ∧ again.options.map LaunchOption.word = invocation.options.map LaunchOption.word := by
  have same : (build settings other).words = (build settings config).words := by
    rw [← build_words_outline settings other, ← build_words_outline settings config, h]
  rw [BuildReport.words, BuildReport.words, built] at same
  cases outcome : (build settings other).outcome with
  | error failure =>
      rw [outcome] at same
      cases same
  | ok again =>
      rw [outcome] at same
      exact ⟨again, rfl, Except.ok.inj same⟩

end GuestLaunch
