import GuestLaunch.Proofs.Descriptors.Inheritance
import GuestLaunch.Proofs.Sockets.Commas
import Mathlib.Data.List.TakeWhile

/-!
Reading descriptors off the arguments. The value of a network backend opens with its keyword, the
identifier of its device and the switch of its accelerator; its lists of descriptors stand right
behind that, before all other texts. So the lists are found with the device at hand, even where a
text holds what looks like a list.
-/

namespace GuestLaunch
open LaunchOption (joinParams)

-----------------------------------------------------------------------------------------
-- Readers
-----------------------------------------------------------------------------------------

/-- The values that stand behind a word, among options that have been read. -/
def valuesBehind (word : String) (options : List ReadOption) : List String :=
  options.filterMap fun option => if option.word = word then option.argument else none

/-- Splits a text that starts with the property of a key: its value up to the next comma, and what
follows.
-/
def splitProperty (key text : String) : Option String × String :=
  match afterStart? ("," ++ key ++ "=") text with
  | none => (none, text)
  | some behind =>
      (some (String.ofList (behind.toList.takeWhile (· != ','))),
        String.ofList (behind.toList.dropWhile (· != ',')))

/-- The list of numbers that a text writes, in its place. -/
def listAt (place : DescriptorPlace) (text : Option String) : PlacedLists Nat :=
  ((text.bind readNumbers?).map fun numbers => (place, numbers)).toList

/-- The list of the descriptor that the source of a migration names. -/
def sourceLists (uri : String) : PlacedLists Nat :=
  ((readSource? uri).map fun number => (DescriptorPlace.migration, [number])).toList

namespace NetDevice

/-- Whether a device has a backend on the command line. -/
def hasBackend (device : NetDevice) : Bool :=
  !device.isSkipped && device.type.backendKeyword?.isSome

/-- What stands before the lists in the value of a backend. -/
def opening (device : NetDevice) : String :=
  device.type.backendKeyword?.getD "" ++ ",id=" ++ device.id
    ++ if device.vhost then ",vhost=on" else ""

/-- The lists of descriptors in the value of a backend: behind the opening, the one of the
accelerator and then the one of the interface.
-/
def listsIn (device : NetDevice) (value : String) : PlacedLists Nat :=
  let (vhost, rest) := splitProperty "vhostfds" ((afterStart? device.opening value).getD "")
  let (queues, _) := splitProperty "fds" rest
  listAt (.backend device.id "vhostfds") vhost ++ listAt (.backend device.id "fds") queues

end NetDevice

/-- The lists of descriptors in the values of backends, one value for each device. -/
def readBackends? : List NetDevice → List String → Option (PlacedLists Nat)
  | [], [] => some []
  | device :: devices, value :: values =>
      (readBackends? devices values).map (device.listsIn value ++ ·)
  | _, _ => none

namespace Config

/-- The network devices that have a backend on the command line. -/
def backends (config : Config) : List NetDevice :=
  config.netDevices.filter NetDevice.hasBackend

/-- Reads lists of descriptors off the arguments: those of the network devices in their order, and
then that of the migration.
-/
def readArguments? (config : Config) (arguments : List String) : Option (PlacedLists Nat) := do
  let options ← readOptions arguments
  let backends ← readBackends? config.backends (valuesBehind "-netdev" options)
  some (backends ++ (valuesBehind "-incoming" options).flatMap sourceLists)

end Config

-----------------------------------------------------------------------------------------
-- Values behind words
-----------------------------------------------------------------------------------------

theorem valuesBehind_append (word : String) (first second : List LaunchOption)
    : valuesBehind word ((first ++ second).map LaunchOption.read)
      = valuesBehind word (first.map LaunchOption.read)
        ++ valuesBehind word (second.map LaunchOption.read) := by
  rw [List.map_append]
  exact List.filterMap_append

/-- Parts none of which has a value behind a word have none together. -/
theorem valuesBehind_flatMap_eq_nil {α : Type} {word : String} {items : List α}
    {render : α → List LaunchOption}
    (each : ∀ item ∈ items, valuesBehind word ((render item).map LaunchOption.read) = [])
    : valuesBehind word ((items.flatMap render).map LaunchOption.read) = [] := by
  rw [valuesBehind, List.map_flatMap, List.filterMap_flatMap]
  exact List.flatMap_eq_nil_iff.mpr each

/-- Options whose flags are spelled otherwise have no values behind a word. -/
theorem UsesOnly.valuesBehind_eq_nil {flags : List Flag} {options : List LaunchOption}
    {word : String} (h : UsesOnly flags options) (other : ∀ flag ∈ flags, flag.spelling ≠ word)
    : valuesBehind word (options.map LaunchOption.read) = [] := by
  refine List.filterMap_eq_nil_iff.mpr fun option member => ?_
  obtain ⟨written, listed, rfl⟩ := List.mem_map.mp member
  cases written with
  | toggle switch => exact ite_self _
  | setting flag params => exact if_neg (other flag (h _ listed flag rfl))

-----------------------------------------------------------------------------------------
-- Properties at the start of a text
-----------------------------------------------------------------------------------------

/-- A property that starts where another one stands has its key: both keys end at the first equals
sign.
-/
theorem key_eq_of_starts {key own : String} {rest : List Char} (keyed : '=' ∉ key.toList)
    (plain : '=' ∉ own.toList) (starts : (key ++ "=").toList <+: own.toList ++ '=' :: rest)
    : own = key := by
  obtain ⟨behind, same⟩ := starts
  have equal : key.toList ++ '=' :: behind = own.toList ++ '=' :: rest := by
    simpa using same
  have cut := takeWhile_ne_append keyed behind
  rw [equal, takeWhile_ne_append plain] at cut
  exact String.toList_inj.mp cut

/-- Parameters that are all properties under other keys than the given one. -/
def OtherProperties (key : String) (params : List Param) : Prop :=
  ∀ param ∈ params, ∃ own value, param = .pair own value ∧ own ≠ key ∧ '=' ∉ own.toList

theorem OtherProperties.append {key : String} {first second : List Param}
    (h : OtherProperties key first) (next : OtherProperties key second)
    : OtherProperties key (first ++ second) :=
  List.forall_mem_append.mpr ⟨h, next⟩

/-- A value without a comma is cut off where the next parameter begins. -/
theorem cut_behindCommas {value : String} (plain : CommaFree value) (rest : List Param)
    : (value ++ behindCommas rest).toList.takeWhile (· != ',') = value.toList
      ∧ (value ++ behindCommas rest).toList.dropWhile (· != ',') = (behindCommas rest).toList := by
  have before : (value ++ behindCommas rest).toList.takeWhile (· != ',') = value.toList := by
    cases rest with
    | nil =>
        rw [behindCommas, String.append_empty]
        exact List.takeWhile_eq_self_iff.mpr (ne_of_mem_of_notMem plain)
    | cons param others =>
        have next : (value ++ behindCommas (param :: others)).toList
            = value.toList ++ ',' :: (param.text ++ behindCommas others).toList := by
          simp [behindCommas]
        rw [next, takeWhile_ne_append plain]
  have split := List.takeWhile_append_dropWhile (p := (· != ','))
    (l := (value ++ behindCommas rest).toList)
  rw [before, String.toList_append] at split
  rw [String.toList_append] at before ⊢
  exact ⟨before, List.append_cancel_left split⟩

theorem splitProperty_own {key value : String} (plain : CommaFree value) (rest : List Param)
    : splitProperty key (behindCommas (.pair key value :: rest))
      = (some value, behindCommas rest) := by
  have text : behindCommas (.pair key value :: rest)
      = ("," ++ key ++ "=") ++ (value ++ behindCommas rest) := by
    simp only [behindCommas, Param.text, String.append_assoc]
  obtain ⟨before, behind⟩ := cut_behindCommas plain rest
  simp only [splitProperty, text, afterStart?_append, before, behind, String.ofList_toList]

theorem splitProperty_other {key : String} {params : List Param} (keyed : '=' ∉ key.toList)
    (other : OtherProperties key params)
    : splitProperty key (behindCommas params) = (none, behindCommas params) := by
  have unstarted : afterStart? ("," ++ key ++ "=") (behindCommas params) = none := by
    refine afterStart?_eq_none_iff.mpr fun starts => ?_
    cases params with
    | nil => simp [behindCommas] at starts
    | cons param rest =>
        obtain ⟨own, value, rfl, differ, plain⟩ := other param List.mem_cons_self
        have property : (key ++ "=").toList
            <+: own.toList ++ '=' :: (value ++ behindCommas rest).toList := by
          simpa [behindCommas, Param.text] using starts
        exact differ (key_eq_of_starts keyed plain property)
  rw [splitProperty, unstarted]

/-- A property that may stand before others is split off. -/
theorem splitProperty_toList {key : String} {value : Option String} {rest : List Param}
    (keyed : '=' ∉ key.toList) (plain : ∀ text ∈ value, CommaFree text)
    (other : OtherProperties key rest)
    : splitProperty key (behindCommas ((value.map (Param.pair key)).toList ++ rest))
      = (value, behindCommas rest) := by
  cases value with
  | none => exact splitProperty_other keyed other
  | some text => exact splitProperty_own (plain text rfl) rest

-----------------------------------------------------------------------------------------
-- The value of a backend
-----------------------------------------------------------------------------------------

/-- Numbers with colons between them hold no comma. -/
theorem commaFree_numbers (numbers : List Nat)
    : CommaFree (":".intercalate (numbers.map Text.decimal)) := by
  refine CommaFree.intercalate (by decide) fun text member => ?_
  obtain ⟨number, _, rfl⟩ := List.mem_map.mp member
  rw [CommaFree, Text.decimal, String.toList_ofList]
  intro comma
  cases Text.Numeral.isDecimalDigit_of_mem_write comma

namespace NetDevice

/-- The parameter of a list of descriptors is one property at most, without a comma. -/
theorem exists_inheritedParams_eq (key : String) (descriptors : List Int32) (grants : List Grant)
    : ∃ value : Option String,
        inheritedParams key descriptors grants = (value.map (Param.pair key)).toList
        ∧ ∀ text ∈ value, CommaFree text := by
  unfold inheritedParams
  split
  · exact ⟨none, rfl, fun _ none => nomatch none⟩
  · cases numbersIn? key grants with
    | none => exact ⟨none, rfl, fun _ none => nomatch none⟩
    | some numbers =>
        refine ⟨some (":".intercalate (numbers.map Text.decimal)), rfl, ?_⟩
        rintro text ⟨⟩
        exact commaFree_numbers numbers

/-- The property of a list is read by its key. -/
theorem filterMap_placedList? {key : String} (listed : key = vhostKey ∨ key = queueKey)
    (id : String) (value : Option String)
    : (value.map (Param.pair key)).toList.filterMap (Param.placedList? id)
      = listAt (.backend id key) value := by
  cases value with
  | none => rfl
  | some text =>
      have read : Param.placedList? id (.pair key text)
          = (readNumbers? text).map fun numbers => (.backend id key, numbers) :=
        if_pos listed
      rw [Option.map_some, Option.toList_some, List.filterMap_cons, read, listAt, Option.bind_some]
      cases readNumbers? text <;> rfl

theorem otherProperties_namedParams {key : String} (other : key ∉ namedKeys) (device : NetDevice)
    : OtherProperties key device.namedParams := by
  have keyed : ∀ own ∈ namedKeys, '=' ∉ own.toList := by decide
  intro param member
  obtain ⟨own, listed, value, _, rfl⟩ := exists_pair_of_mem_namedParams member
  refine ⟨own, value, rfl, ?_, keyed own listed⟩
  rintro rfl
  exact other listed

/-- The value of a backend is its opening and then its lists. -/
theorem joinParams_backendParamsFor {device : NetDevice} {keyword : String}
    (kind : device.type.backendKeyword? = some keyword) (grants : List Grant)
    : joinParams (device.backendParamsFor keyword grants)
      = device.opening
        ++ behindCommas
          (inheritedParams vhostKey device.vhostDescriptors grants
            ++ (inheritedParams queueKey device.queueDescriptors grants
              ++ device.namedParams)) := by
  have identity : behindCommas [.pair "id" device.id] = ",id=" ++ device.id :=
    String.toList_inj.mp (by simp [behindCommas, Param.text])
  have switch : behindCommas (Param.onWhen "vhost" device.vhost)
      = if device.vhost then ",vhost=on" else "" := by
    cases device.vhost <;> decide
  have params : device.backendParamsFor keyword grants
      = .bare keyword
        :: ([.pair "id" device.id] ++ (Param.onWhen "vhost" device.vhost
          ++ (inheritedParams vhostKey device.vhostDescriptors grants
            ++ (inheritedParams queueKey device.queueDescriptors grants
              ++ device.namedParams)))) := by
    simp [backendParamsFor]
  rw [params, LaunchOption.joinParams_cons, behindCommas_append, behindCommas_append, identity,
    switch, opening, kind, Option.getD_some, Param.text]
  simp only [String.append_assoc]

/-- The lists in the value of a backend are those of its option. -/
theorem listsIn_joinParams {device : NetDevice} {keyword : String}
    (kind : device.type.backendKeyword? = some keyword) (grants : List Grant)
    : device.listsIn (joinParams (device.backendParamsFor keyword grants))
      = readLists (device.backendOptionsFor grants) := by
  obtain ⟨vhost, vhostParams, vhostPlain⟩ :=
    exists_inheritedParams_eq vhostKey device.vhostDescriptors grants
  obtain ⟨queues, queueParams, queuesPlain⟩ :=
    exists_inheritedParams_eq queueKey device.queueDescriptors grants
  have named : OtherProperties "fds" device.namedParams :=
    device.otherProperties_namedParams (by decide)
  have behind : OtherProperties "vhostfds"
      ((queues.map (Param.pair "fds")).toList ++ device.namedParams) := by
    refine .append ?_ (device.otherProperties_namedParams (by decide))
    intro param member
    obtain ⟨text, _, rfl⟩ := Option.map_eq_some_iff.mp (Option.mem_toList.mp member)
    exact ⟨"fds", text, rfl, by decide, by decide⟩
  have first : splitProperty "vhostfds" (behindCommas
      ((vhost.map (Param.pair vhostKey)).toList
        ++ ((queues.map (Param.pair queueKey)).toList ++ device.namedParams)))
      = (vhost, behindCommas ((queues.map (Param.pair "fds")).toList ++ device.namedParams)) :=
    splitProperty_toList (by decide) vhostPlain behind
  have second := splitProperty_toList (by decide) queuesPlain named
  rw [readLists_backendOptionsFor kind, joinParams_backendParamsFor kind, vhostParams, queueParams,
    filterMap_placedList? (Or.inl rfl), filterMap_placedList? (Or.inr rfl), listsIn,
    afterStart?_append, Option.getD_some]
  simp only [first, second]
  rfl

/-- The value of a network device is read as the lists of its options. -/
theorem readBackends?_optionsFor (device : NetDevice) (placement : Placement)
    (grants : List Grant)
    : readBackends? (if device.hasBackend then [device] else [])
          (valuesBehind "-netdev" ((device.optionsFor placement grants).map LaunchOption.read))
      = some (readLists (device.optionsFor placement grants)) := by
  have card := device.usesOnly_cardOptionsFor placement grants
  have silent := device.silent_cardOptionsFor placement grants
  by_cases skipped : device.isSkipped
  · rw [optionsFor, if_pos skipped, hasBackend, skipped]
    rfl
  · rw [optionsFor, if_neg skipped, valuesBehind_append, card.valuesBehind_eq_nil (by decide),
      readLists_append, silent.readLists_eq_nil, List.append_nil, List.append_nil]
    cases kind : device.type.backendKeyword? with
    | none =>
        simp only [hasBackend, backendOptionsFor, kind, Option.isSome_none, Bool.and_false]
        rfl
    | some keyword =>
        have present : device.hasBackend = true := by simp [hasBackend, skipped, kind]
        have options : device.backendOptionsFor grants
            = [.setting .netdev (device.backendParamsFor keyword grants)] := by
          simp only [backendOptionsFor, kind]
        rw [if_pos present, ← listsIn_joinParams kind, options]
        show some (device.listsIn _ ++ []) = _
        rw [List.append_nil]

end NetDevice

-----------------------------------------------------------------------------------------
-- The arguments of an assembly
-----------------------------------------------------------------------------------------

/-- Values of backends are read one part after the other, by induction on the devices. -/
theorem readBackends?_append {first second : List NetDevice} {before after : List String}
    {lists others : PlacedLists Nat} (h : readBackends? first before = some lists)
    (next : readBackends? second after = some others)
    : readBackends? (first ++ second) (before ++ after) = some (lists ++ others) := by
  induction first generalizing before lists with
  | nil =>
      cases before with
      | nil =>
          obtain rfl := Option.some.inj h
          exact next
      | cons => cases h
  | cons device rest ih =>
      cases before with
      | nil => cases h
      | cons value values =>
          obtain ⟨own, read, rfl⟩ := Option.map_eq_some_iff.mp h
          rw [List.cons_append, List.cons_append, readBackends?, ih read, Option.map_some,
            List.append_assoc]

/-- The backend of a device, if it is a network device that has one. -/
def Device.backends : Device → List NetDevice
  | net device => if device.hasBackend then [device] else []
  | _ => []

/-- The values of a device are read as the lists of its options, by the kind of the device. -/
theorem Device.readBackends?_optionsFor (device : Device) (placement : Placement)
    (architecture : Architecture) (grants : List Grant)
    : readBackends? device.backends
          (valuesBehind "-netdev"
            ((device.optionsFor placement architecture grants).map LaunchOption.read))
      = some (readLists (device.optionsFor placement architecture grants)) := by
  by_cases card : ∃ own, device = .net own
  · obtain ⟨own, rfl⟩ := card
    exact own.readBackends?_optionsFor placement grants
  · have other : ∀ own, device ≠ .net own := not_exists.mp card
    have uses := device.usesOnly_optionsFor placement architecture grants
    have quiet : ∀ flag ∈ device.flags, flag.spelling ≠ "-netdev" := by
      cases device with
      | net own => exact absurd rfl (other own)
      | _ => simp [flags, Flag.spelling]
    have none : device.backends = [] := by
      cases device with
      | net own => exact absurd rfl (other own)
      | _ => rfl
    rw [uses.valuesBehind_eq_nil quiet, none,
      (Device.silent_optionsFor other placement architecture grants).readLists_eq_nil]
    rfl

/-- The values of a plan are read as the lists of its options, by induction on the plan. -/
theorem PlanGranted.readBackends?_planOptions {state final : RunState}
    {plan : List PlannedDevice} {grants : List (List Grant)}
    (h : PlanGranted state plan grants final) (architecture : Architecture) (iommuPlatform : Bool)
    : readBackends? (plan.flatMap fun planned => planned.device.backends)
          (valuesBehind "-netdev"
            ((planOptions architecture iommuPlatform plan grants).flatten.map LaunchOption.read))
      = some (readLists (planOptions architecture iommuPlatform plan grants).flatten) := by
  induction h with
  | nil => rfl
  | @cons state next final planned rest grants more first _ ih =>
      have options : planOptions architecture iommuPlatform (planned :: rest) (grants :: more)
          = planned.device.optionsFor (planned.placement iommuPlatform) architecture grants
            :: planOptions architecture iommuPlatform rest more :=
        rfl
      rw [options, List.flatten_cons, List.flatMap_cons, valuesBehind_append, readLists_append]
      exact readBackends?_append
        (planned.device.readBackends?_optionsFor (planned.placement iommuPlatform) architecture
          grants) ih

/-- The backends of a plan are those of the network devices of the configuration. -/
theorem Config.backends_plan (config : Config) (host : Host)
    : (config.plan host).flatMap (fun planned => planned.device.backends) = config.backends := by
  have empty {α : Type} (items : List α) : items.flatMap (fun _ => ([] : List NetDevice)) = [] :=
    List.flatMap_eq_nil_iff.mpr fun _ _ => rfl
  have kept (cards : List NetDevice)
      : cards.flatMap (fun card => if card.hasBackend then [card] else [])
        = cards.filter NetDevice.hasBackend := by
    induction cards with
    | nil => rfl
    | cons card rest ih => by_cases own : card.hasBackend <;> simp [own, ih]
  simp [plan, devices, Category.all, Category.devices, List.flatMap_map, PlannedDevice.of,
    Device.backends, backends, empty, kept]

/-- The value of an incoming migration is its source. -/
theorem sourceLists_joinParams (uri : String)
    : sourceLists (joinParams [.bare uri]) = [Param.bare uri].filterMap Param.sourceList? := by
  have value : joinParams [.bare uri] = uri := by
    rw [LaunchOption.joinParams_cons, Param.text, behindCommas, String.append_empty]
  rw [value, sourceLists, List.filterMap_cons, Param.sourceList?]
  cases readSource? uri <;> rfl

/-- The source of a migration is read as the list of its options. -/
theorem Migration.sourceLists_optionsFor (source : Migration) (grants : List Grant)
    : (valuesBehind "-incoming" ((source.optionsFor grants).map LaunchOption.read)).flatMap
          sourceLists
      = readLists (source.optionsFor grants) := by
  unfold optionsFor
  cases source.uriFor? grants with
  | none => rfl
  | some uri =>
      show sourceLists (joinParams [.bare uri]) ++ []
        = [Param.bare uri].filterMap Param.sourceList? ++ []
      rw [sourceLists_joinParams]

theorem Migration.usesOnly_optionsFor (source : Migration) (grants : List Grant)
    : UsesOnly [.incoming] (source.optionsFor grants) := by
  unfold optionsFor
  cases source.uriFor? grants with
  | none => exact usesOnly_nil
  | some uri =>
      have toggle : UsesOnly [.incoming] [.toggle .stopped] := by
        intro option member flag own
        obtain rfl := List.mem_singleton.mp member
        cases own
      exact toggle.append (usesOnly_setting (by decide))

/-- No stage that uses up nothing spells a flag of descriptors, by the flags of the stages. -/
theorem valuesBehind_settings (stages : List Stage) (config : Config) (host : Host)
    : valuesBehind "-netdev"
          ((stages.flatMap (Stage.settings config host)).map LaunchOption.read) = []
      ∧ valuesBehind "-incoming"
          ((stages.flatMap (Stage.settings config host)).map LaunchOption.read) = [] := by
  have quiet (stage : Stage)
      : ∀ flag ∈ stage.flags, flag.spelling ≠ "-netdev" ∧ flag.spelling ≠ "-incoming" := by
    cases stage <;> decide
  have uses (stage : Stage) := stage.usesOnly_settings config host
  constructor
  · refine valuesBehind_flatMap_eq_nil fun stage _ => ?_
    exact (uses stage).valuesBehind_eq_nil fun flag own => (quiet stage flag own).1
  · refine valuesBehind_flatMap_eq_nil fun stage _ => ?_
    exact (uses stage).valuesBehind_eq_nil fun flag own => (quiet stage flag own).2

namespace GrantedRun
variable {settings : BuildSettings} {config : Config}

/-- No device has an incoming migration, by the flags of its kind. -/
theorem valuesBehind_incoming_devices (run : GrantedRun settings config)
    : valuesBehind "-incoming" ((run.groups .devices).flatten.map LaunchOption.read) = [] := by
  have quiet (device : Device) : ∀ flag ∈ device.flags, flag.spelling ≠ "-incoming" := by
    cases device <;> simp [Device.flags, Flag.spelling]
  rw [run.options_devices]
  refine valuesBehind_flatMap_eq_nil fun step listed => ?_
  obtain ⟨own, _, options⟩ := run.step_granted listed
  rw [options]
  exact (step.planned.device.usesOnly_optionsFor _ _ _).valuesBehind_eq_nil (quiet _)

/-- The lists that are read off the arguments of an assembly are those of its options. -/
theorem readArguments?_arguments (run : GrantedRun settings config)
    : config.readArguments? run.invocation.arguments
      = some (readLists run.invocation.options) := by
  have devices : readBackends? config.backends
      (valuesBehind "-netdev" ((run.groups .devices).flatten.map LaunchOption.read))
      = some (readLists (run.groups .devices).flatten) := by
    rw [← config.backends_plan (settings.host config)]
    exact run.devices_granted.readBackends?_planOptions settings.architecture
      config.knobs.iommuPlatform
  have stages (list : List Stage) := valuesBehind_settings list config (settings.host config)
  have migration : valuesBehind "-netdev"
      ((config.incoming.optionsFor run.incoming).map LaunchOption.read) = [] :=
    (config.incoming.usesOnly_optionsFor run.incoming).valuesBehind_eq_nil (by decide)
  have backends : valuesBehind "-netdev" (run.invocation.options.map LaunchOption.read)
      = valuesBehind "-netdev" ((run.groups .devices).flatten.map LaunchOption.read) := by
    rw [run.options_eq]
    simp only [valuesBehind_append, (stages _).1, migration,
      List.nil_append, List.append_nil]
  have sources : valuesBehind "-incoming" (run.invocation.options.map LaunchOption.read)
      = valuesBehind "-incoming"
          ((config.incoming.optionsFor run.incoming).map LaunchOption.read) := by
    rw [run.options_eq]
    simp only [valuesBehind_append, (stages _).2, run.valuesBehind_incoming_devices,
      List.nil_append, List.append_nil]
  have lists : readLists run.invocation.options
      = readLists (run.groups .devices).flatten
        ++ readLists (config.incoming.optionsFor run.incoming) := by
    rw [run.options_eq]
    simp only [readLists_append, readLists_settings, List.nil_append, List.append_nil]
  rw [Config.readArguments?, Invocation.arguments, readOptions_argumentsOf]
  simp only [Option.bind_eq_bind, Option.bind_some, backends, devices, sources,
    config.incoming.sourceLists_optionsFor, lists]

end GrantedRun

end GuestLaunch
