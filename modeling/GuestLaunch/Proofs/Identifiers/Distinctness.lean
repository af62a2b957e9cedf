import GuestLaunch.Proofs.DeviceOrder.Members
import GuestLaunch.Proofs.Identifiers.Declarations
import GuestLaunch.Proofs.Outcome.Validity
import Mathlib.Data.List.Flatten
import Mathlib.Data.List.Nodup

/-!
Where identifiers on a command line are distinct. Validation compares the identifiers of one
category of devices, while a namespace of the hypervisor holds those of one flag: categories
that share a flag may share identifiers, and so may fields that are not the identifier of their
device.
-/

namespace GuestLaunch

/-- Where options come from: the devices of a category, or a stage of settings. -/
inductive Origin where
  | category (category : Category)
  | stage (stage : Stage)
deriving DecidableEq, Repr

/-- The origins of the groups of a stage: one for each device, and one for any other stage. -/
def Stage.origins (config : Config) : Stage → List Origin
  | devices => config.members.map fun member => .category member.1
  | stage => [.stage stage]

/-- The groups of options in an assembly with their origins. -/
def originGroups (settings : BuildSettings) (config : Config)
    : List (Origin × List LaunchOption) :=
  (renderAll settings config).groups.flatMap fun group => (group.1.origins config).zip group.2

/-- The identifiers that the options of a flag declare, with their origins. -/
def declaredBy (flag : Flag) (groups : List (Origin × List LaunchOption))
    : List (Origin × String) :=
  groups.flatMap fun group => (declaredIds flag group.2).map fun id => (group.1, id)

namespace Origin

/-- The flags with which an origin declares identifiers. -/
def flags : Origin → List Flag
  | category .rootPort | category .bridge | category .ide | category .usb => [.device]
  | category .balloon | category .virtioSerial => [.device]
  | category .scsi => [.device, .object]
  | category .disk => [.drive]
  | category .char => [.device, .chardev]
  | category .net => [.netdev]
  | category .entropy => [.object]
  | stage .display | stage .tpm => [.chardev]
  | stage .knobs | stage .ioThreads => [.object]
  | _ => []

/-- Whether an origin declares identifiers with a flag that validation does not compare: those of
the devices that character devices have in the guest, and those of threads.
-/
def isUnchecked (flag : Flag) : Origin → Bool
  | category .char => flag = .device
  | category .scsi => flag = .object
  | stage .ioThreads => true
  | _ => false

/-- Whether an origin is a setting with an endpoint. -/
def isEndpoint : Origin → Bool
  | stage .display | stage .tpm => true
  | _ => false

/-- Whether two origins may declare the same identifier with a flag: an origin by itself where
validation does not compare, and two origins unless both are endpoints.
-/
def MayShare (flag : Flag) (first second : Origin) : Prop :=
  if first = second then first.isUnchecked flag = true
  else ¬(first.isEndpoint = true ∧ second.isEndpoint = true)

theorem mayShare_self {flag : Flag} {origin : Origin}
    : MayShare flag origin origin ↔ origin.isUnchecked flag = true := by
  rw [MayShare, if_pos rfl]

theorem mayShare_of_ne {flag : Flag} {first second : Origin} (apart : first ≠ second)
    (endpoints : ¬(first.isEndpoint = true ∧ second.isEndpoint = true))
    : MayShare flag first second := by
  rw [MayShare, if_neg apart]
  exact endpoints

end Origin

/-- Two declared identifiers coincide only where their origins may share one. -/
def SharesOnly (flag : Flag) (first second : Origin × String) : Prop :=
  first.2 = second.2 → first.1.MayShare flag second.1

/-- No option namespace of a command line has an identifier that is declared twice. -/
def IdsDistinct (invocation : Invocation) : Prop :=
  ∀ flag ∈ identifierFlags, (declaredIds flag invocation.options).Nodup

/-- The identifiers on the command line of an assembly, in the namespaces of the hypervisor. -/
structure IdsSeparated (settings : BuildSettings) (config : Config) (invocation : Invocation)
    : Prop where
  /-- The command line consists of the groups of the origins. -/
  options : (originGroups settings config).flatMap Prod.snd = invocation.options
  /-- Every origin declares identifiers with its own flags only. -/
  origins
    : ∀ flag ∈ identifierFlags, ∀ declared ∈ declaredBy flag (originGroups settings config),
        flag ∈ declared.1.flags
  /-- An identifier is declared twice with a flag only by origins that may share it. -/
  distinct
    : ∀ flag ∈ identifierFlags,
        (declaredBy flag (originGroups settings config)).Pairwise (SharesOnly flag)
  drives : (declaredIds .drive invocation.options).Nodup
  backends : (declaredIds .netdev invocation.options).Nodup

-----------------------------------------------------------------------------------------
-- The identifiers of a configuration
-----------------------------------------------------------------------------------------

/-- The identifiers among declarations that are not empty, with the origin of them all. -/
def originIds (flag : Flag) (origin : Origin) (declarations : List Declaration)
    : List (Origin × String) :=
  ((idsUnder flag declarations).filter fun id => !id.isEmpty).map fun id => (origin, id)

/-- The identifiers that a stage may declare with a flag. -/
def Config.stageIds (config : Config) (flag : Flag) : Stage → List (Origin × String)
  | .devices =>
      config.members.flatMap fun member =>
        originIds flag (.category member.1) member.2.declarations
  | stage => originIds flag (.stage stage) (stage.declarations config)

/-- The identifiers that a configuration may declare with a flag. -/
def Config.ids (config : Config) (flag : Flag) : List (Origin × String) :=
  Stage.all.flatMap (config.stageIds flag)

theorem mem_idsUnder {flag : Flag} {id : String} {declarations : List Declaration}
    : id ∈ idsUnder flag declarations ↔ (flag, id) ∈ declarations := by
  simp [idsUnder]

theorem mem_originIds {flag : Flag} {origin : Origin} {declarations : List Declaration}
    {declared : Origin × String}
    : declared ∈ originIds flag origin declarations
      ↔ declared.1 = origin ∧ declared.2 ≠ "" ∧ (flag, declared.2) ∈ declarations := by
  constructor
  · intro member
    obtain ⟨id, kept, rfl⟩ := List.mem_map.mp member
    obtain ⟨under, present⟩ := List.mem_filter.mp kept
    exact ⟨rfl, by simpa using present, mem_idsUnder.mp under⟩
  · rintro ⟨rfl, present, listed⟩
    refine List.mem_map.mpr ⟨declared.2, List.mem_filter.mpr ⟨?_, ?_⟩, rfl⟩
    · exact mem_idsUnder.mpr listed
    · simpa using present

/-- An identifier of a stage belongs to a device or to the stage itself. -/
theorem Config.mem_stageIds {config : Config} {flag : Flag} {stage : Stage}
    {declared : Origin × String} (member : declared ∈ config.stageIds flag stage)
    : declared.2 ≠ ""
      ∧ ((∃ category device,
            stage = .devices
            ∧ device ∈ category.devices config
            ∧ declared.1 = .category category
            ∧ (flag, declared.2) ∈ device.declarations)
          ∨ (declared.1 = .stage stage ∧ (flag, declared.2) ∈ stage.declarations config)) := by
  cases stage with
  | devices =>
      obtain ⟨⟨category, device⟩, listed, own⟩ := List.mem_flatMap.mp member
      obtain ⟨origin, present, named⟩ := mem_originIds.mp own
      exact ⟨present, Or.inl ⟨category, device, rfl, mem_members.mp listed, origin, named⟩⟩
  | _ =>
      obtain ⟨origin, present, named⟩ := mem_originIds.mp member
      exact ⟨present, Or.inr ⟨origin, named⟩⟩

-----------------------------------------------------------------------------------------
-- Which identifiers of a configuration coincide
-----------------------------------------------------------------------------------------

namespace Category
variable {category : Category} {config : Config} {device : Device} {flag : Flag} {id : String}

/-- A device declares identifiers with the flags of its category only, by the category. -/
theorem flags_of_declaration (member : device ∈ category.devices config)
    (declared : (flag, id) ∈ device.declarations)
    : flag ∈ (Origin.category category).flags := by
  cases category
  case legacySerial | monitor | flash =>
    obtain ⟨own, _, rfl⟩ := List.mem_map.mp member
    cases declared
  all_goals
    obtain ⟨own, _, rfl⟩ := List.mem_map.mp member
    simp only [Device.declarations, List.mem_cons, List.not_mem_nil, or_false,
      Prod.mk.injEq] at declared
    simp only [Origin.flags, List.mem_cons, List.not_mem_nil, or_false]
  case scsi | char => exact declared.imp And.left And.left
  all_goals exact declared.1

/-- An identifier that validation compares is the one of its device, by the category. -/
theorem id?_of_declaration (member : device ∈ category.devices config)
    (declared : (flag, id) ∈ device.declarations) (present : id ≠ "")
    (compared : (Origin.category category).isUnchecked flag = false)
    : device.id? = some id := by
  have shown : (some id).filter (fun id => !id.isEmpty) = some id := by
    simp [present]
  cases category
  case legacySerial | monitor | flash =>
    obtain ⟨own, _, rfl⟩ := List.mem_map.mp member
    cases declared
  all_goals
    obtain ⟨own, _, rfl⟩ := List.mem_map.mp member
    simp only [Device.declarations, List.mem_cons, List.not_mem_nil, or_false,
      Prod.mk.injEq] at declared
  case scsi =>
    rcases declared with ⟨rfl, rfl⟩ | ⟨rfl, rfl⟩
    · exact shown
    · cases compared
  case char =>
    rcases declared with ⟨rfl, rfl⟩ | ⟨rfl, rfl⟩
    · cases compared
    · exact shown
  all_goals
    obtain ⟨rfl, rfl⟩ := declared
    exact shown

end Category

/-- A stage of settings declares identifiers with its own flags only, by the stage. -/
theorem Stage.flags_of_declaration {stage : Stage} {config : Config} {flag : Flag} {id : String}
    (identifying : flag ∈ identifierFlags) (declared : (flag, id) ∈ stage.declarations config)
    : flag ∈ (Origin.stage stage).flags := by
  cases stage with
  | display =>
      obtain ⟨spice, _, own⟩ := List.mem_flatMap.mp declared
      obtain ⟨rfl, _⟩ := Prod.mk.inj (List.mem_singleton.mp own)
      decide
  | tpm =>
      obtain ⟨tpm, _, own⟩ := List.mem_flatMap.mp declared
      simp only [Device.declarations, List.mem_cons, List.not_mem_nil, or_false,
        Prod.mk.injEq] at own
      rcases own with ⟨rfl, _⟩ | ⟨rfl, _⟩
      · decide
      · exact absurd identifying (by decide)
  | knobs =>
      obtain ⟨rfl, _⟩ := Prod.mk.inj (List.mem_singleton.mp declared)
      decide
  | ioThreads =>
      obtain ⟨thread, _, own⟩ := List.mem_map.mp declared
      obtain ⟨rfl, _⟩ := Prod.mk.inj own
      decide
  | _ => cases declared

/-- Declarations with flags of their own give no flag two identifiers. -/
theorem originIds_pairwise {declarations : List Declaration}
    (apart : declarations.Pairwise fun first second => first.1 ≠ second.1)
    (flag : Flag) (origin : Origin) (relation : Origin × String → Origin × String → Prop)
    : (originIds flag origin declarations).Pairwise relation := by
  rw [originIds, List.pairwise_map, List.pairwise_filter, idsUnder, List.pairwise_map,
    List.pairwise_filter]
  refine apart.imp ?_
  intro first second other own same
  simp only [decide_eq_true_eq] at own same
  exact absurd (own.trans same.symm) other

theorem Stage.id_of_display {config : Config} {flag : Flag} {id : String}
    (declared : (flag, id) ∈ Stage.display.declarations config)
    : id = Spice.channelId := by
  obtain ⟨spice, _, own⟩ := List.mem_flatMap.mp declared
  exact (Prod.mk.inj (List.mem_singleton.mp own)).2

theorem Stage.id_of_tpm {config : Config} {flag : Flag} {id : String}
    (identifying : flag ∈ identifierFlags)
    (declared : (flag, id) ∈ Stage.tpm.declarations config)
    : ∃ tpm : Tpm, id = tpm.socketId := by
  obtain ⟨tpm, _, own⟩ := List.mem_flatMap.mp declared
  simp only [Device.declarations, List.mem_cons, List.not_mem_nil, or_false,
    Prod.mk.injEq] at own
  rcases own with ⟨_, named⟩ | ⟨rfl, _⟩
  · exact ⟨tpm, named⟩
  · exact absurd identifying (by decide)

/-- The identifiers of the two endpoints among the settings begin differently. -/
theorem Tpm.socketId_ne_channelId (tpm : Tpm) : tpm.socketId ≠ Spice.channelId := by
  intro same
  have first := congrArg (fun text => text.toList.head?) same
  simp [socketId, Spice.channelId] at first

namespace Config
variable {config : Config} {flag : Flag}

/-- The identifiers of a stage of settings coincide only where it may share them, by the stage. -/
theorem sharesOnly_settings (stage : Stage)
    : (originIds flag (.stage stage) (stage.declarations config)).Pairwise
        (SharesOnly flag) := by
  cases stage with
  | display =>
      refine originIds_pairwise ?_ _ _ _
      unfold Stage.declarations
      cases config.spice <;> simp [Device.declarations]
  | tpm =>
      refine originIds_pairwise ?_ _ _ _
      unfold Stage.declarations
      cases config.tpm <;> simp [Device.declarations]
  | ioThreads =>
      refine List.pairwise_of_forall_mem_list ?_
      intro first own second same _
      rw [(mem_originIds.mp own).1, (mem_originIds.mp same).1]
      exact Origin.mayShare_self.mpr rfl
  | _ => exact originIds_pairwise (by simp [Stage.declarations]) _ _ _

/-- The identifiers of the devices of a configuration without problems coincide only where their
categories may share them. Two devices of one category differ in the identifiers that validation
compares.
-/
theorem sharesOnly_devices (valid : config.problems = [])
    : (config.stageIds flag .devices).Pairwise (SharesOnly flag) := by
  have categories : Category.all.Nodup := by decide
  rw [stageIds, members, List.flatMap_assoc, List.pairwise_flatMap]
  constructor
  · intro category _
    rw [List.flatMap_map, List.pairwise_flatMap]
    constructor
    · intro device member
      refine originIds_pairwise ?_ _ _ _
      cases category
      all_goals
        obtain ⟨own, _, rfl⟩ := List.mem_map.mp member
        simp [Device.declarations]
    · refine (List.pairwise_filterMap.mp (ids_nodup_of_valid valid category)).imp_of_mem ?_
      intro device other member otherMember apart first own second same coincide
      obtain ⟨firstOrigin, present, declared⟩ := mem_originIds.mp own
      obtain ⟨secondOrigin, otherPresent, otherDeclared⟩ := mem_originIds.mp same
      rw [firstOrigin, secondOrigin, Origin.mayShare_self]
      by_contra compared
      rw [Bool.not_eq_true] at compared
      exact apart _ (Category.id?_of_declaration member declared present compared) _
        (Category.id?_of_declaration otherMember otherDeclared otherPresent compared) coincide
  · have origin {category : Category} {declared : Origin × String}
        (member
          : declared ∈ ((category.devices config).map fun device => (category, device)).flatMap
              fun member => originIds flag (.category member.1) member.2.declarations)
        : declared.1 = .category category := by
      rw [List.flatMap_map] at member
      obtain ⟨device, _, own⟩ := List.mem_flatMap.mp member
      exact (mem_originIds.mp own).1
    refine categories.imp ?_
    intro category other apart first own second same _
    rw [origin own, origin same]
    refine Origin.mayShare_of_ne ?_ (by simp [Origin.isEndpoint])
    intro equal
    exact apart (Origin.category.inj equal)

/-- Identifiers of different stages coincide only where their origins may share them. The only
origins that may not are the two endpoints, whose identifiers differ.
-/
theorem sharesOnly_of_ne {stage other : Stage} (apart : stage ≠ other)
    {first second : Origin × String} (own : first ∈ config.stageIds flag stage)
    (same : second ∈ config.stageIds flag other) (identifying : flag ∈ identifierFlags)
    : SharesOnly flag first second := by
  intro coincide
  obtain ⟨_, ⟨_, _, devices, _, firstOrigin, _⟩ | ⟨firstOrigin, declared⟩⟩ := mem_stageIds own
  all_goals
    obtain ⟨_, ⟨_, _, others, _, secondOrigin, _⟩ | ⟨secondOrigin, otherDeclared⟩⟩ :=
      mem_stageIds same
  · exact absurd (devices.trans others.symm) apart
  · rw [firstOrigin, secondOrigin]
    exact Origin.mayShare_of_ne Origin.noConfusion (by simp [Origin.isEndpoint])
  · rw [firstOrigin, secondOrigin]
    exact Origin.mayShare_of_ne Origin.noConfusion (by simp [Origin.isEndpoint])
  · rw [firstOrigin, secondOrigin]
    refine Origin.mayShare_of_ne (fun equal => apart (Origin.stage.inj equal)) ?_
    rintro ⟨firstEndpoint, secondEndpoint⟩
    cases stage
    case display =>
      cases other
      case display => exact absurd rfl apart
      case tpm =>
        obtain ⟨tpm, named⟩ := Stage.id_of_tpm identifying otherDeclared
        have channel := Stage.id_of_display declared
        exact tpm.socketId_ne_channelId (named.symm.trans (coincide.symm.trans channel))
      all_goals cases secondEndpoint
    case tpm =>
      cases other
      case display =>
        obtain ⟨tpm, named⟩ := Stage.id_of_tpm identifying declared
        have channel := Stage.id_of_display otherDeclared
        exact tpm.socketId_ne_channelId (named.symm.trans (coincide.trans channel))
      case tpm => exact absurd rfl apart
      all_goals cases secondEndpoint
    all_goals cases firstEndpoint

/-- The identifiers of a configuration without problems coincide only where their origins may
share them.
-/
theorem sharesOnly_ids (valid : config.problems = []) (identifying : flag ∈ identifierFlags)
    : (config.ids flag).Pairwise (SharesOnly flag) := by
  have stages : Stage.all.Nodup := by decide
  rw [ids, List.pairwise_flatMap]
  constructor
  · intro stage _
    cases stage with
    | devices => exact sharesOnly_devices valid
    | _ => exact sharesOnly_settings _
  · refine stages.imp ?_
    intro stage other apart first own second same
    exact sharesOnly_of_ne apart own same identifying

end Config

-----------------------------------------------------------------------------------------
-- The identifiers of a command line
-----------------------------------------------------------------------------------------

theorem declaredBy_append (flag : Flag) (first second : List (Origin × List LaunchOption))
    : declaredBy flag (first ++ second) = declaredBy flag first ++ declaredBy flag second :=
  List.flatMap_append

/-- Options that declare no more than declarations allow give no more identifiers to an
origin.
-/
theorem declaredBy_sublist {flag : Flag} {options : List LaunchOption}
    {declarations : List Declaration}
    (h : (propertyValues flag "id" options).Sublist (idsUnder flag declarations))
    (origin : Origin)
    : (declaredBy flag [(origin, options)]).Sublist (originIds flag origin declarations) := by
  rw [declaredBy, List.flatMap_singleton]
  exact (h.filter _).map _

/-- The groups of a plan declare no more than the devices of the plan may, by induction on these.
-/
theorem declaredBy_planOptions (flag : Flag) (architecture : Architecture)
    (iommuPlatform : Bool) (host : Host) (members : List (Category × Device))
    (grants : List (List Grant))
    : (declaredBy flag ((members.map fun member => Origin.category member.1).zip
          (planOptions architecture iommuPlatform
            ((members.map Prod.snd).map (PlannedDevice.of host)) grants))).Sublist
        (members.flatMap fun member =>
          originIds flag (.category member.1) member.2.declarations) := by
  induction members generalizing grants with
  | nil => exact List.Sublist.refl []
  | cons member rest ih =>
      cases grants with
      | nil => exact List.nil_sublist _
      | cons own more =>
          have head := declaredBy_sublist
            (member.2.ids_optionsFor ((PlannedDevice.of host member.2).placement iommuPlatform)
              architecture own flag)
            (.category member.1)
          show (declaredBy flag ([_] ++ _)).Sublist _
          rw [declaredBy_append, List.flatMap_cons]
          exact head.append (ih more)

namespace GrantedRun
variable {settings : BuildSettings} {config : Config}

theorem originGroups_eq (run : GrantedRun settings config)
    : originGroups settings config
      = Stage.all.flatMap fun stage => (stage.origins config).zip (run.groups stage) := by
  rw [originGroups, run.renderAll.1, List.flatMap_map]

/-- The groups of a stage declare no more than the stage may. -/
theorem declaredBy_stage (run : GrantedRun settings config) {flag : Flag}
    (identifying : flag ∈ identifierFlags) (stage : Stage)
    : (declaredBy flag ((stage.origins config).zip (run.groups stage))).Sublist
        (config.stageIds flag stage) := by
  cases stage with
  | devices =>
      have plan : config.plan (settings.host config)
          = (config.members.map Prod.snd).map (PlannedDevice.of (settings.host config)) := by
        rw [Config.members_snd]
        rfl
      have groups : run.groups .devices
          = planOptions settings.architecture config.knobs.iommuPlatform
              (config.plan (settings.host config)) run.grants :=
        rfl
      rw [groups, plan]
      exact declaredBy_planOptions flag _ _ _ config.members run.grants
  | incoming =>
      refine declaredBy_sublist ?_ (.stage .incoming)
      unfold Migration.optionsFor
      cases config.incoming.uriFor? run.incoming <;> simp [LaunchOption.value]
  | _ => exact declaredBy_sublist (Stage.ids_settings _ config _ identifying) _

/-- The command line declares no more than the configuration may. -/
theorem declaredBy_originGroups (run : GrantedRun settings config) {flag : Flag}
    (identifying : flag ∈ identifierFlags)
    : (declaredBy flag (originGroups settings config)).Sublist (config.ids flag) := by
  rw [run.originGroups_eq, declaredBy, List.flatMap_assoc]
  exact List.Sublist.flatMap_right _ fun stage _ => run.declaredBy_stage identifying stage

/-- The groups of the origins make up the command line. -/
theorem options_originGroups (run : GrantedRun settings config)
    : (originGroups settings config).flatMap Prod.snd = run.invocation.options := by
  have stage (stage : Stage)
      : ((stage.origins config).zip (run.groups stage)).flatMap Prod.snd
        = (run.groups stage).flatten := by
    have enough : (run.groups stage).length ≤ (stage.origins config).length := by
      cases stage with
      | devices =>
          have members := congrArg List.length config.members_snd
          have groups : (run.groups .devices).length ≤ config.devices.length := by
            show (planOptions _ _ (config.plan _) run.grants).length ≤ _
            rw [planOptions, List.length_zipWith, Config.plan, List.length_map]
            exact Nat.min_le_left _ _
          rw [Stage.origins, List.length_map]
          rw [List.length_map] at members
          omega
      | _ => exact Nat.le_refl 1
    rw [List.flatMap_def, List.map_snd_zip enough]
  rw [run.originGroups_eq, List.flatMap_assoc]
  exact congrArg (fun render => Stage.all.flatMap render) (funext stage)

end GrantedRun

theorem Origin.eq_disk {origin : Origin} (declares : Flag.drive ∈ origin.flags)
    : origin = .category .disk := by
  cases origin with
  | category category => cases category <;> simp [flags] at declares ⊢
  | stage stage => cases stage <;> simp [flags] at declares

theorem Origin.eq_net {origin : Origin} (declares : Flag.netdev ∈ origin.flags)
    : origin = .category .net := by
  cases origin with
  | category category => cases category <;> simp [flags] at declares ⊢
  | stage stage => cases stage <;> simp [flags] at declares

/-- Where one origin alone declares identifiers with a flag, and may not share them, they are
distinct.
-/
theorem nodup_of_origin {flag : Flag} {groups : List (Origin × List LaunchOption)}
    (origin : Origin) (only : ∀ declared ∈ declaredBy flag groups, declared.1 = origin)
    (compared : origin.isUnchecked flag = false)
    (distinct : (declaredBy flag groups).Pairwise (SharesOnly flag))
    : (declaredIds flag (groups.flatMap Prod.snd)).Nodup := by
  have ids : declaredIds flag (groups.flatMap Prod.snd)
      = (declaredBy flag groups).map Prod.snd := by
    rw [declaredIds, propertyValues_flatMap, List.filter_flatMap, declaredBy, List.map_flatMap]
    simp [declaredIds, Function.comp_def]
  rw [ids, List.Nodup, List.pairwise_map]
  refine distinct.imp_of_mem ?_
  intro first second own same shares coincide
  have shared := shares coincide
  rw [only first own, only second same, Origin.mayShare_self, compared] at shared
  cases shared

/-- In an assembly that succeeds, identifiers coincide only where their origins may share them;
drives and network backends have one origin each. The command line declares no more than the
configuration names, and validation compares the identifiers of each category.
-/
theorem ids_separated_of_build {settings : BuildSettings} {config : Config}
    {invocation : Invocation} (built : (build settings config).outcome = .ok invocation)
    : IdsSeparated settings config invocation := by
  obtain ⟨valid, run, rfl⟩ := build_ok_iff.mp built
  have distinct (flag : Flag) (identifying : flag ∈ identifierFlags)
      : (declaredBy flag (originGroups settings config)).Pairwise (SharesOnly flag) :=
    (Config.sharesOnly_ids valid identifying).sublist (run.declaredBy_originGroups identifying)
  have origins (flag : Flag) (identifying : flag ∈ identifierFlags)
      : ∀ declared ∈ declaredBy flag (originGroups settings config),
          flag ∈ declared.1.flags := by
    intro declared member
    have named := (run.declaredBy_originGroups identifying).subset member
    obtain ⟨stage, _, own⟩ := List.mem_flatMap.mp named
    obtain ⟨_, ⟨category, device, _, listed, origin, id⟩ | ⟨origin, id⟩⟩ :=
      Config.mem_stageIds own
    · rw [origin]
      exact Category.flags_of_declaration listed id
    · rw [origin]
      exact Stage.flags_of_declaration identifying id
  constructor
  case options => exact run.options_originGroups
  case origins => exact origins
  case distinct => exact distinct
  case drives =>
    rw [← run.options_originGroups]
    refine nodup_of_origin (.category .disk) ?_ rfl (distinct .drive (by decide))
    intro declared member
    exact Origin.eq_disk (origins .drive (by decide) declared member)
  case backends =>
    rw [← run.options_originGroups]
    refine nodup_of_origin (.category .net) ?_ rfl (distinct .netdev (by decide))
    intro declared member
    exact Origin.eq_net (origins .netdev (by decide) declared member)

/-- A guest whose devices and settings share identifiers wherever they may. -/
def sharingGuest : Config where
  rootPorts := [{ id := "x" }]
  bridges := [{ id := "x", bus := "pcie.0", address := "0x5" }]
  scsiControllers := [{ id := "s0", ioThread := "t" }, { id := "s1", ioThread := "t" }]
  charDevices :=
    [{ id := "c0", driver := "virtserialport", deviceId := "x", path := "/run/c0" },
      { id := "spicechannel0", driver := "virtserialport", deviceId := "x", path := "/run/c1" }]
  entropySources := [{ id := "t", driver := "virtio-rng" }]
  spice := some { port := "5900" }
  ioThreads := [{ id := "t" }, { id := "t" }]

/-- The sharing guest is assembled, and its identifiers are separated. -/
theorem ids_separated_sharingGuest
    : ∃ invocation,
        (build {} sharingGuest).outcome = .ok invocation
        ∧ IdsSeparated {} sharingGuest invocation := by
  have succeeds : (build {} sharingGuest).outcome.toOption.isSome = true := by
    decide +kernel
  obtain ⟨invocation, built⟩ := BuildReport.exists_invocation succeeds
  exact ⟨invocation, built, ids_separated_of_build built⟩

/-- The namespaces of the sharing guest have identifiers that are declared twice. -/
theorem not_idsDistinct_sharingGuest
    : ∃ invocation,
        (build {} sharingGuest).outcome = .ok invocation
        ∧ declaredIds .device invocation.options = ["x", "x", "s0", "s1", "x", "x"]
        ∧ declaredIds .object invocation.options = ["t", "t", "t", "t", "t"]
        ∧ declaredIds .chardev invocation.options = ["spicechannel0", "c0", "spicechannel0"]
        ∧ ¬IdsDistinct invocation := by
  have declared : (build {} sharingGuest).outcome.toOption.map
        (fun invocation =>
          (declaredIds .device invocation.options, declaredIds .object invocation.options,
            declaredIds .chardev invocation.options))
      = some
        (["x", "x", "s0", "s1", "x", "x"], ["t", "t", "t", "t", "t"],
          ["spicechannel0", "c0", "spicechannel0"]) := by
    decide +kernel
  cases outcome : (build {} sharingGuest).outcome with
  | error failure =>
      rw [outcome] at declared
      cases declared
  | ok invocation =>
      rw [outcome] at declared
      obtain ⟨devices, rest⟩ := Prod.mk.inj (Option.some.inj declared)
      obtain ⟨objects, endpoints⟩ := Prod.mk.inj rest
      refine ⟨invocation, rfl, devices, objects, endpoints, ?_⟩
      intro distinct
      have repeated := distinct .device (by decide)
      rw [devices] at repeated
      exact absurd repeated (by decide)

end GuestLaunch
