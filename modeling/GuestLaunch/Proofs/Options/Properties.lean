import GuestLaunch.Proofs.Options.FlagUse

/-!
Reading properties back from options: the values that the options of a flag give to a property,
in the order of the command line. The properties are those that the devices and settings write as
such: a comma inside a text does not begin another one, as it would for a reader of the arguments.
-/

namespace GuestLaunch

def Param.valueUnder? (key : String) : Param → Option String
  | pair own value => if own = key then some value else none
  | bare _ => none

/-- The values that parameters give to a property. -/
def valuesUnder (key : String) (params : List Param) : List String :=
  params.filterMap (Param.valueUnder? key)

/-- The values that an option gives to a property, if its flag is the given one. -/
def LaunchOption.valuesUnder (flag : Flag) (key : String) : LaunchOption → List String
  | toggle _ => []
  | setting own params => if own = flag then GuestLaunch.valuesUnder key params else []

/-- The values that the options of a flag give to a property. -/
def propertyValues (flag : Flag) (key : String) (options : List LaunchOption) : List String :=
  options.flatMap (LaunchOption.valuesUnder flag key)

-----------------------------------------------------------------------------------------
-- Parameters
-----------------------------------------------------------------------------------------

section
variable {key own : String}

@[simp] theorem valuesUnder_nil : valuesUnder key [] = [] := rfl

@[simp] theorem valuesUnder_append (first second : List Param)
    : valuesUnder key (first ++ second) = valuesUnder key first ++ valuesUnder key second :=
  List.filterMap_append

@[simp] theorem valuesUnder_bare (text : String) (rest : List Param)
    : valuesUnder key (.bare text :: rest) = valuesUnder key rest :=
  List.filterMap_cons_none rfl

theorem valuesUnder_own (value : String) (rest : List Param)
    : valuesUnder key (.pair key value :: rest) = value :: valuesUnder key rest :=
  List.filterMap_cons_some (if_pos rfl)

theorem valuesUnder_other (other : own ≠ key) (value : String) (rest : List Param)
    : valuesUnder key (.pair own value :: rest) = valuesUnder key rest :=
  List.filterMap_cons_none (if_neg other)

@[simp] theorem valuesUnder_pair (value : String) (rest : List Param)
    : valuesUnder key (.pair own value :: rest)
      = if own = key then value :: valuesUnder key rest else valuesUnder key rest := by
  split
  next same =>
    subst same
    exact valuesUnder_own value rest
  next other => exact valuesUnder_other other value rest

@[simp] theorem valuesUnder_ite {condition : Prop} [Decidable condition]
    (first second : List Param)
    : valuesUnder key (if condition then first else second)
      = if condition then valuesUnder key first else valuesUnder key second :=
  apply_ite _ _ _ _

@[simp] theorem valuesUnder_unlessEmpty (other : own ≠ key) (value : String)
    : valuesUnder key (Param.unlessEmpty own value) = [] := by
  simp [Param.unlessEmpty, other]

@[simp] theorem valuesUnder_onWhen (other : own ≠ key) (enabled : Bool)
    : valuesUnder key (Param.onWhen own enabled) = [] := by
  simp [Param.onWhen, other]

@[simp] theorem valuesUnder_optional (value : Option String)
    : valuesUnder key (value.map (Param.pair own)).toList
      = if own = key then value.toList else [] := by
  cases value with
  | none => exact (ite_self []).symm
  | some text => exact valuesUnder_pair text []

/-- A parameter that is present only with some value gives nothing to other properties. -/
theorem valuesUnder_toList {α : Type} {item : Option α} {render : α → Param}
    (other : ∀ value, (render value).valueUnder? key = none)
    : valuesUnder key (item.map render).toList = [] := by
  cases item with
  | none => rfl
  | some value => exact List.filterMap_cons_none (other value)

theorem valuesUnder_getD {α : Type} {item : Option α} {render : α → List Param}
    (none : ∀ value, valuesUnder key (render value) = [])
    : valuesUnder key ((item.map render).getD []) = [] := by
  cases item with
  | none => rfl
  | some value => exact none value

variable (placement : Placement)

@[simp] theorem valuesUnder_disableModernParams (other : "disable-modern" ≠ key)
    (disable : Bool)
    : valuesUnder key (placement.disableModernParams disable) = [] := by
  simp [Placement.disableModernParams, other]

@[simp] theorem valuesUnder_romParams (other : "romfile" ≠ key) (file : String)
    : valuesUnder key (placement.romParams file) = [] := by
  simp [Placement.romParams, other]

@[simp] theorem valuesUnder_iommuParams (other : "iommu_platform" ≠ key)
    : valuesUnder key placement.iommuParams = [] := by
  simp [Placement.iommuParams, other]

@[simp] theorem valuesUnder_deviceNumberParams (other : "devno" ≠ key) (number : String)
    : valuesUnder key (placement.deviceNumberParams number) = [] := by
  simp [Placement.deviceNumberParams, other]

end

-----------------------------------------------------------------------------------------
-- Options
-----------------------------------------------------------------------------------------

section
variable {flag own : Flag} {key : String}

@[simp] theorem propertyValues_nil : propertyValues flag key [] = [] := rfl

@[simp] theorem propertyValues_append (first second : List LaunchOption)
    : propertyValues flag key (first ++ second)
      = propertyValues flag key first ++ propertyValues flag key second :=
  List.flatMap_append

@[simp] theorem propertyValues_toggle (switch : Switch) (rest : List LaunchOption)
    : propertyValues flag key (.toggle switch :: rest) = propertyValues flag key rest :=
  rfl

@[simp] theorem propertyValues_setting (params : List Param) (rest : List LaunchOption)
    : propertyValues flag key (.setting own params :: rest)
      = (if own = flag then valuesUnder key params else []) ++ propertyValues flag key rest :=
  rfl

@[simp] theorem propertyValues_ite {condition : Prop} [Decidable condition]
    (first second : List LaunchOption)
    : propertyValues flag key (if condition then first else second)
      = if condition then propertyValues flag key first
        else propertyValues flag key second :=
  apply_ite _ _ _ _

theorem propertyValues_flatMap {α : Type} (items : List α) (render : α → List LaunchOption)
    : propertyValues flag key (items.flatMap render)
      = items.flatMap fun item => propertyValues flag key (render item) :=
  List.flatMap_assoc ..

/-- Options that do not use a flag give no values to its properties. -/
theorem UsesOnly.propertyValues_eq_nil {flags : List Flag} {options : List LaunchOption}
    (h : UsesOnly flags options) (unused : flag ∉ flags)
    : propertyValues flag key options = [] := by
  apply List.flatMap_eq_nil_iff.mpr
  intro option member
  cases option with
  | toggle switch => rfl
  | setting own params =>
      refine if_neg ?_
      rintro rfl
      exact unused (h _ member own rfl)

end

-----------------------------------------------------------------------------------------
-- Parameters of devices
-----------------------------------------------------------------------------------------

/-- The keys of a backend, apart from those of its identifier, its accelerator and its lists. -/
def NetDevice.namedKeys : List String :=
  ["ifname", "downscript", "script", "ipv4", "hostfwd", "net", "mcast"]

/-- The texts of a device that may stand in the value of its backend, apart from its identifier. -/
def NetDevice.namedTexts (device : NetDevice) : List String :=
  [device.tap.interface, device.tap.downScript, device.tap.upScript, device.user.ipv4Network,
      device.multicast.address ++ ":" ++ device.multicast.port]
    ++ device.user.rules.map PortRule.text

section
variable {key : String}

@[simp] theorem valuesUnder_slotParam (other : "addr" ≠ key) (slot : Option Nat)
    : valuesUnder key (slot.map slotParam).toList = [] :=
  valuesUnder_toList fun _ => if_neg other

@[simp] theorem Endpoint.valuesUnder_params (otherServer : "server" ≠ key)
    (otherWait : "wait" ≠ key) (endpoint : Endpoint)
    : valuesUnder key endpoint.params = [] := by
  simp [params, listenParams, otherServer, otherWait]

@[simp] theorem Bridge.valuesUnder_addressParams (other : "addr" ≠ key) (bridge : Bridge)
    : valuesUnder key bridge.addressParams = [] := by
  unfold addressParams
  split <;> simp [other]

@[simp] theorem ScsiController.valuesUnder_slotParams (otherSlot : "addr" ≠ key)
    (otherBus : "bus" ≠ key) (controller : ScsiController) (slot : Option Nat)
    : valuesUnder key ((slot.map controller.slotParams).getD []) = [] :=
  valuesUnder_getD fun _ => by simp [slotParams, slotParam, otherSlot, otherBus]

@[simp] theorem Disk.valuesUnder_slotParams (otherSlot : "addr" ≠ key)
    (otherBus : "bus" ≠ key) (disk : Disk) (slot : Option Nat)
    : valuesUnder key ((slot.map disk.slotParams).getD []) = [] :=
  valuesUnder_getD fun _ => by simp [slotParams, slotParam, otherSlot, otherBus]

@[simp] theorem Disk.valuesUnder_choiceParams {α : Type} {own : String} (other : own ≠ key)
    (name : α → String) (choice : Option α)
    : valuesUnder key (choiceParams own name choice) = [] :=
  valuesUnder_toList fun _ => if_neg other

@[simp] theorem CharDevice.valuesUnder_pathParams (otherPath : "path" ≠ key)
    (otherServer : "server" ≠ key) (otherWait : "wait" ≠ key) (device : CharDevice)
    : valuesUnder key device.pathParams = [] := by
  unfold pathParams
  cases device.backend <;> simp [listenParams, otherPath, otherServer, otherWait]

/-- A backend that is no list of descriptors gives few properties, and their values are switches or
texts of the device, by the kind of the backend.
-/
theorem NetDevice.exists_pair_of_mem_namedParams {device : NetDevice} {param : Param}
    (member : param ∈ device.namedParams)
    : ∃ own ∈ namedKeys, ∃ value ∈ "on" :: "off" :: device.namedTexts, param = .pair own value := by
  have present {own value : String} (listed : own ∈ namedKeys)
      (text : value ∈ "on" :: "off" :: device.namedTexts)
      (only : param ∈ Param.unlessEmpty own value)
      : ∃ own ∈ namedKeys, ∃ value ∈ "on" :: "off" :: device.namedTexts,
          param = .pair own value := by
    unfold Param.unlessEmpty at only
    split at only
    · cases only
    · exact ⟨own, listed, value, text, List.mem_singleton.mp only⟩
  unfold namedParams at member
  split at member
  case h_1 =>
    split at member
    · rcases List.mem_append.mp member with before | up
      · rcases List.mem_append.mp before with interface | down
        · exact ⟨"ifname", by decide, _, by simp [namedTexts], List.mem_singleton.mp interface⟩
        · exact present (by decide) (by simp [namedTexts]) down
      · exact present (by decide) (by simp [namedTexts]) up
    · cases member
  case h_2 =>
    rcases List.mem_append.mp member with before | network
    · rcases List.mem_append.mp before with ipv4 | rule
      · refine ⟨"ipv4", by decide, _, ?_, List.mem_singleton.mp ipv4⟩
        cases device.user.ipv4 <;> simp [Param.onOff]
      · obtain ⟨text, kept, rfl⟩ := List.mem_map.mp rule
        have written : text ∈ device.user.rules.map PortRule.text := (List.mem_filter.mp kept).1
        refine ⟨"hostfwd", by decide, text, ?_, rfl⟩
        exact List.mem_cons_of_mem _ (List.mem_cons_of_mem _ (List.mem_append_right _ written))
    · exact present (by decide) (by simp [namedTexts]) network
  case h_3 => exact ⟨"mcast", by decide, _, by simp [namedTexts], List.mem_singleton.mp member⟩
  case h_4 => cases member

theorem NetDevice.valuesUnder_namedParams (other : key ∉ namedKeys) (device : NetDevice)
    : valuesUnder key device.namedParams = [] := by
  apply List.filterMap_eq_nil_iff.mpr
  intro param member
  obtain ⟨own, listed, value, _, rfl⟩ := exists_pair_of_mem_namedParams member
  refine if_neg ?_
  rintro rfl
  exact other listed

@[simp] theorem NetDevice.valuesUnder_inheritedParams {own : String} (other : own ≠ key)
    (descriptors : List Int32) (grants : List Grant)
    : valuesUnder key (inheritedParams own descriptors grants) = [] := by
  unfold inheritedParams
  split
  · rfl
  · exact valuesUnder_toList fun _ => if_neg other

end

end GuestLaunch
