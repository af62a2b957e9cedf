import GuestLaunch.Proofs.Transports.VirtioParams
import Mathlib.Data.List.Basic

/-!
Reading the devices of the guest back from options: how each is named, and how it is attached to
channel I/O. Which devices an assembly puts into the guest can be told from the configuration
alone: what the run gives out changes neither the names nor the attachments.
-/

namespace GuestLaunch
open LaunchOption (deviceParams?)

/-- What a device option tells of a device in the guest. -/
structure GuestDevice where
  /-- The name of the device: the first parameter, if it stands by itself. -/
  name : Option String
  /-- The values of the device number on channel I/O. -/
  numbers : List String := []
  /-- The values of the property for the platform IOMMU. -/
  iommu : List String := []
deriving DecidableEq, Repr

/-- The text of a parameter that stands by itself. -/
def Param.bare? : Param → Option String
  | bare text => some text
  | pair _ _ => none

namespace GuestDevice

/-- What the parameters of a device option tell. -/
def ofParams (params : List Param) : GuestDevice where
  name := params.head?.bind Param.bare?
  numbers := valuesUnder "devno" params
  iommu := valuesUnder "iommu_platform" params

@[simp] theorem ofParams_bare (name : String) (rest : List Param)
    : ofParams (.bare name :: rest)
      = { name, numbers := valuesUnder "devno" rest, iommu := valuesUnder "iommu_platform" rest } :=
  rfl

end GuestDevice

/-- The devices of the guest that options tell of, in the order of the options. -/
def readGuestDevices (options : List LaunchOption) : List GuestDevice :=
  options.filterMap fun option => option.deviceParams?.map GuestDevice.ofParams

/-- The fields of a device that matter on channel I/O. -/
structure ChannelFields where
  /-- The driver that the transport completes to the name of a device. -/
  base : String
  driver : String
  number : String
  /-- Whether the device goes through the platform IOMMU with the knob. -/
  heedsKnob : Bool

/-- The device of the guest that has the given fields. -/
def ChannelFields.guestDevice (fields : ChannelFields) (placement : Placement)
    : GuestDevice where
  name := placement.deviceName fields.base fields.driver
  numbers := if placement.transport = .ccw then [fields.number] else []
  iommu :=
    if placement.transport = .ccw ∧ placement.iommuPlatform = true ∧ fields.heedsKnob = true then
      ["on"]
    else
      []

namespace Device

/-- The fields of a device that is numbered on channel I/O, whatever its driver is. A disk that is
a drive only has none, like a network device without a card.
-/
def channelFields? : Device → Option ChannelFields
  | scsi controller =>
      some ⟨"virtio-scsi", "virtio-scsi", controller.deviceNumber, true⟩
  | disk device =>
      if device.driveOnly then none
      else some ⟨"virtio-blk", device.driver, device.deviceNumber, false⟩
  | char device =>
      if device.driver = "virtio-serial" then
        some ⟨"virtio-serial", "virtio-serial", device.deviceNumber, true⟩
      else
        none
  | net card =>
      if card.isSkipped = true ∨ card.driver = "" then none
      else some ⟨"virtio-net", card.driver, card.deviceNumber, true⟩
  | entropy source => some ⟨"virtio-rng", source.driver, source.deviceNumber, true⟩
  | balloon device => some ⟨"virtio-balloon", "virtio-balloon", device.deviceNumber, false⟩
  | virtioSerial controller =>
      some ⟨"virtio-serial", controller.driver, controller.deviceNumber, true⟩
  | _ => none

/-- The names that a device has in the guest whatever its transport. The old serial ports have none
there.
-/
def fixedNames (architecture : Architecture) : Device → List String
  | rootPort _ => ["pcie-root-port"]
  | bridge device =>
      match device.type with
      | .pci => ["pci-bridge"]
      | .pcie => ["pcie-pci-bridge"]
  | ide controller | usb controller => [controller.driver]
  | char device =>
      if device.driver ∈ ["serial", "pci-serial", "virtio-serial"] then [] else [device.driver]
  | spice _ => ["virtio-serial-pci", "virtserialport"]
  | tpm device => [device.deviceName architecture]
  | _ => []

/-- What a device puts into the guest. -/
def guestDevices (device : Device) (placement : Placement) (architecture : Architecture)
    : List GuestDevice :=
  (device.channelFields?.map fun fields => fields.guestDevice placement).toList
    ++ (device.fixedNames architecture).map fun name => { name := name }

/-- What a device puts into the guest is named by the transport or by itself. -/
theorem mem_guestDevices {device : Device} {placement : Placement} {architecture : Architecture}
    {shown : GuestDevice}
    : shown ∈ device.guestDevices placement architecture
      ↔ (∃ fields ∈ device.channelFields?, fields.guestDevice placement = shown)
        ∨ ∃ name ∈ device.fixedNames architecture, { name := name } = shown := by
  rw [guestDevices, List.mem_append, Option.mem_toList, Option.map_eq_some_iff, List.mem_map]
  rfl

end Device

-----------------------------------------------------------------------------------------
-- Options
-----------------------------------------------------------------------------------------

section
variable {options : List LaunchOption}

@[simp] theorem readGuestDevices_nil : readGuestDevices [] = [] := rfl

@[simp] theorem readGuestDevices_append (first second : List LaunchOption)
    : readGuestDevices (first ++ second) = readGuestDevices first ++ readGuestDevices second :=
  List.filterMap_append

@[simp] theorem readGuestDevices_setting (flag : Flag) (params : List Param)
    (rest : List LaunchOption)
    : readGuestDevices (.setting flag params :: rest)
      = (if flag = .device then [.ofParams params] else []) ++ readGuestDevices rest := by
  cases flag <;> rfl

theorem readGuestDevices_flatMap {α : Type} (items : List α) (render : α → List LaunchOption)
    : readGuestDevices (items.flatMap render)
      = items.flatMap fun item => readGuestDevices (render item) :=
  List.filterMap_flatMap

/-- Options without device options put nothing into the guest. -/
theorem UsesOnly.readGuestDevices_eq_nil {flags : List Flag} (h : UsesOnly flags options)
    (unused : .device ∉ flags)
    : readGuestDevices options = [] := by
  apply List.filterMap_eq_nil_iff.mpr
  intro option member
  cases option with
  | toggle switch => rfl
  | setting flag params =>
      have used := h _ member flag rfl
      cases flag with
      | device => exact absurd used unused
      | _ => rfl

end

-----------------------------------------------------------------------------------------
-- Kinds of devices
-----------------------------------------------------------------------------------------

section Kinds
open GuestDevice ChannelFields
variable (placement : Placement)

theorem RootPort.ofParams_params (port : RootPort)
    : ofParams (port.params placement) = { name := "pcie-root-port" } := by
  simp [params, multifunctionParams, reserveParams]

theorem Bridge.ofParams_params (bridge : Bridge) (architecture : Architecture)
    : [ofParams (bridge.params placement)]
      = (Device.bridge bridge).guestDevices placement architecture := by
  unfold Device.guestDevices Device.channelFields? Device.fixedNames
  cases type : bridge.type <;> simp [params, identityParams, type]

theorem ScsiController.ofParams_params (controller : ScsiController) (slot : Option Nat)
    : ofParams (controller.params placement slot)
      = guestDevice ⟨"virtio-scsi", "virtio-scsi", controller.deviceNumber, true⟩ placement := by
  simp [guestDevice, params, Placement.deviceName]

theorem PciController.ofParams_params (controller : PciController) (slot : Nat) {bus : List Param}
    (numberless : valuesUnder "devno" bus = []) (direct : valuesUnder "iommu_platform" bus = [])
    : ofParams (controller.params slot bus) = { name := controller.driver } := by
  simp [params, slotParam, numberless, direct]

theorem Disk.ofParams_deviceParams (disk : Disk) (bootIndex : Option String) (slot : Option Nat)
    : ofParams (disk.deviceParams placement bootIndex slot)
      = guestDevice ⟨"virtio-blk", disk.driver, disk.deviceNumber, false⟩ placement := by
  simp [guestDevice, deviceParams, controllerParams, geometryParams, featureParams, virtioDriver]

theorem CharDevice.ofParams_deviceParams (device : CharDevice)
    : ofParams (device.deviceParams placement)
      = if device.driver = "virtio-serial" then
          guestDevice ⟨"virtio-serial", "virtio-serial", device.deviceNumber, true⟩ placement
        else
          { name := device.driver } := by
  by_cases virtio : device.driver = "virtio-serial"
  · have own : device.isVirtio = true := by simp [isVirtio, virtio, virtioSerialDriver]
    simp [guestDevice, deviceParams, virtioParams, own, virtio, virtioSerialDriver]
  · have other : device.isVirtio = false := by simp [isVirtio, virtio, virtioSerialDriver]
    simp [deviceParams, virtioParams, other, virtio, Placement.deviceName, virtioSerialDriver]

theorem NetDevice.ofParams_cardParams (card : NetDevice) (slot : Option Nat)
    (bootIndex : Option String)
    : ofParams (card.cardParams placement (placement.deviceName "virtio-net" card.driver) slot
        bootIndex)
      = guestDevice ⟨"virtio-net", card.driver, card.deviceNumber, true⟩ placement := by
  simp [guestDevice, cardParams, queueParams]

theorem EntropySource.ofParams_deviceParams (source : EntropySource) (slot : Option Nat)
    : ofParams (source.deviceParams placement slot)
      = guestDevice ⟨"virtio-rng", source.driver, source.deviceNumber, true⟩ placement := by
  simp [guestDevice, deviceParams, limitParam, virtioDriver]

theorem Balloon.ofParams_params (balloon : Balloon)
    : ofParams (balloon.params placement)
      = guestDevice ⟨"virtio-balloon", "virtio-balloon", balloon.deviceNumber, false⟩
          placement := by
  simp [guestDevice, params, Placement.deviceName]

theorem VirtioSerial.ofParams_params (controller : VirtioSerial)
    : ofParams (controller.params placement)
      = guestDevice ⟨"virtio-serial", controller.driver, controller.deviceNumber, true⟩
          placement := by
  show _ = guestDevice ⟨virtioSerialDriver, controller.driver, _, _⟩ _
  simp [guestDevice, params, portParams]

end Kinds

/-- A controller in a slot has one device in the guest. -/
theorem PciController.readGuestDevices_optionsFor (controller : PciController)
    {bus : List Param} (numberless : valuesUnder "devno" bus = [])
    (direct : valuesUnder "iommu_platform" bus = []) {grants : List Grant}
    (placed : slotIn? grants ≠ none)
    : readGuestDevices (controller.optionsFor bus grants) = [{ name := controller.driver }] := by
  obtain ⟨slot, granted⟩ := Option.ne_none_iff_exists'.mp placed
  simp [optionsFor, granted, controller.ofParams_params slot numberless direct]

section
open Device (channelFields? fixedNames)
variable (placement : Placement) (architecture : Architecture)

/-- A character device has a device in the guest unless it is an old serial port. -/
theorem CharDevice.readGuestDevices_launchOptions (device : CharDevice)
    : readGuestDevices (device.launchOptions placement)
      = (Device.char device).guestDevices placement architecture := by
  have endpoint : readGuestDevices [.setting .chardev device.endpointParams] = [] := rfl
  rw [launchOptions, readGuestDevices_append, endpoint, List.append_nil]
  unfold guestOptions Device.guestDevices channelFields? fixedNames
  by_cases port : device.driver = "serial"
  · simp [port, serialDriver]
  by_cases card : device.driver = "pci-serial"
  · simp [card, serialDriver, pciSerialDriver, LaunchOption.value]
  by_cases virtio : device.driver = "virtio-serial"
  · simp [virtio, serialDriver, pciSerialDriver, ofParams_deviceParams]
  · simp [port, card, virtio, serialDriver, pciSerialDriver, ofParams_deviceParams]

theorem NetDevice.readGuestDevices_optionsFor (card : NetDevice) (grants : List Grant)
    : readGuestDevices (card.optionsFor placement grants)
      = (Device.net card).guestDevices placement architecture := by
  have backend : readGuestDevices (card.backendOptionsFor grants) = [] := by
    unfold backendOptionsFor
    split <;> simp
  unfold optionsFor cardOptionsFor Device.guestDevices channelFields? fixedNames
  cases skipped : card.isSkipped <;> by_cases bare : card.driver = "" <;>
    simp [skipped, bare, backend, ofParams_cardParams, virtioDriver]

end

/-- A device whose requests are granted puts into the guest what goes with its kind, whatever it
has been granted.
-/
theorem Device.readGuestDevices_of_granted {device : Device} {placement : Placement}
    {state final : RunState} {grants : List Grant}
    (h : Granted state (device.requests placement.transport) grants final)
    (architecture : Architecture)
    : readGuestDevices (device.optionsFor placement architecture grants)
      = device.guestDevices placement architecture := by
  have placed {address : String}
      (asks : device.slotAddress? placement.transport = some address)
      : slotIn? grants ≠ none := by
    obtain ⟨slot, _, single⟩ := h.allocate_of_slotAddress? asks
    rw [slotIn?_eq_head?, single]
    exact Option.some_ne_none slot
  cases device with
  | rootPort device =>
      simp [optionsFor, RootPort.optionsFor, guestDevices, channelFields?, fixedNames,
        RootPort.ofParams_params]
  | bridge device => exact device.ofParams_params placement architecture
  | scsi device =>
      have thread : readGuestDevices device.threadOptions = [] := by
        unfold ScsiController.threadOptions
        split <;> rfl
      simp [optionsFor, ScsiController.optionsFor, guestDevices, channelFields?, fixedNames,
        thread, ScsiController.ofParams_params]
  | ide device =>
      exact device.readGuestDevices_optionsFor (by simp [PciController.busParams])
        (by simp [PciController.busParams]) (placed rfl)
  | usb device => exact device.readGuestDevices_optionsFor rfl rfl (placed rfl)
  | disk device =>
      cases alone : device.driveOnly <;>
        simp [optionsFor, Disk.optionsFor, guestDevices, channelFields?, fixedNames, alone,
          Disk.ofParams_deviceParams]
  | char device => exact device.readGuestDevices_launchOptions placement architecture
  | net device => exact device.readGuestDevices_optionsFor placement architecture grants
  | entropy device =>
      simp [optionsFor, EntropySource.optionsFor, guestDevices, channelFields?, fixedNames,
        EntropySource.ofParams_deviceParams]
  | balloon device =>
      simp [optionsFor, Balloon.launchOptions, guestDevices, channelFields?, fixedNames,
        Balloon.ofParams_params]
  | virtioSerial device =>
      simp [optionsFor, VirtioSerial.launchOptions, guestDevices, channelFields?, fixedNames,
        VirtioSerial.ofParams_params]
  | legacySerial | monitor | flash | spice | tpm => rfl

/-- What a device that is rendered puts into the guest, in any state of the run. -/
theorem Device.readGuestDevices_of_render {device : Device} {placement : Placement}
    {architecture : Architecture} {state after : RunState} {options : List LaunchOption}
    (rendered : (device.render placement architecture).run state = (.ok options, after))
    : readGuestDevices options = device.guestDevices placement architecture := by
  obtain ⟨grants, granted, rfl⟩ := exists_optionsFor_of_render rendered
  exact readGuestDevices_of_granted granted architecture

-----------------------------------------------------------------------------------------
-- Assemblies
-----------------------------------------------------------------------------------------

/-- How an assembly places a device. -/
def BuildSettings.placementOf (settings : BuildSettings) (config : Config) (device : Device)
    : Placement :=
  (PlannedDevice.of (settings.host config) device).placement config.knobs.iommuPlatform

/-- The devices among the settings of a stage: the display and the trusted platform module. -/
def Stage.settingDevices (config : Config) : Stage → List Device
  | display => config.spice.toList.map .spice
  | tpm => config.tpm.toList.map .tpm
  | _ => []

namespace Config

/-- All devices of a configuration: those among the settings, and then those of the categories. -/
def allDevices (config : Config) : List Device :=
  Stage.all.flatMap (Stage.settingDevices config) ++ config.devices

/-- What a configuration puts into the guest, device by device. -/
def guestDevices (config : Config) (settings : BuildSettings) : List GuestDevice :=
  config.allDevices.flatMap fun device =>
    device.guestDevices (settings.placementOf config device) settings.architecture

end Config

/-- The settings of a stage put into the guest what goes with the devices among them. All stages
but two have no device options.
-/
theorem Stage.readGuestDevices_settings (stage : Stage) (config : Config) (host : Host)
    (placement : Device → Placement)
    : readGuestDevices (stage.settings config host)
      = (stage.settingDevices config).flatMap fun device =>
          device.guestDevices (placement device) host.architecture := by
  cases stage with
  | display =>
      show readGuestDevices ((config.spice.map Spice.launchOptions).getD []) = _
      unfold settingDevices
      cases config.spice <;> rfl
  | tpm =>
      show readGuestDevices
        ((config.tpm.map fun tpm => tpm.launchOptions host.architecture).getD []) = _
      unfold settingDevices
      cases config.tpm <;> rfl
  | _ => exact (usesOnly_settings _ config host).readGuestDevices_eq_nil (by decide)

namespace GrantedRun
variable {settings : BuildSettings} {config : Config}

/-- The devices of an assembly put into the guest what goes with their kinds, step by step. -/
theorem readGuestDevices_devices (run : GrantedRun settings config)
    : readGuestDevices (run.groups .devices).flatten
      = config.devices.flatMap fun device =>
          device.guestDevices (settings.placementOf config device) settings.architecture := by
  let shown (planned : PlannedDevice) : List GuestDevice :=
    planned.device.guestDevices (planned.placement config.knobs.iommuPlatform)
      settings.architecture
  have step : ∀ step ∈ deviceSteps settings config,
      readGuestDevices step.options = shown step.planned := by
    intro step member
    obtain ⟨grants, granted, rendered⟩ := run.step_granted member
    rw [rendered]
    exact Device.readGuestDevices_of_granted granted settings.architecture
  calc readGuestDevices (run.groups .devices).flatten
      = (deviceSteps settings config).flatMap fun step => shown step.planned := by
        rw [run.options_devices, readGuestDevices_flatMap]
        exact List.flatMap_congr step
    _ = (config.plan (settings.host config)).flatMap shown := by
        rw [← run.steps_planned, List.flatMap_map]
    _ = config.devices.flatMap fun device =>
          device.guestDevices (settings.placementOf config device) settings.architecture := by
        rw [Config.plan, List.flatMap_map]
        rfl

/-- An assembly puts into the guest what goes with its devices, those among the settings first. -/
theorem readGuestDevices_invocation (run : GrantedRun settings config)
    : readGuestDevices run.invocation.options = config.guestDevices settings := by
  have plain (stages : List Stage)
      : readGuestDevices (stages.flatMap (Stage.settings config (settings.host config)))
        = (stages.flatMap (Stage.settingDevices config)).flatMap fun device =>
            device.guestDevices (settings.placementOf config device) settings.architecture := by
    rw [readGuestDevices_flatMap, List.flatMap_assoc]
    exact List.flatMap_congr fun stage _ =>
      stage.readGuestDevices_settings config (settings.host config) (settings.placementOf config)
  have migration : readGuestDevices (config.incoming.optionsFor run.incoming) = [] := by
    unfold Migration.optionsFor
    cases config.incoming.uriFor? run.incoming <;> rfl
  have before : stagesBeforeDevices.flatMap (Stage.settingDevices config)
      = Stage.all.flatMap (Stage.settingDevices config) := by
    simp [stagesBeforeDevices, Stage.all, Stage.settingDevices]
  have between : stagesBeforeIncoming.flatMap (Stage.settingDevices config) = [] := rfl
  have after : stagesAfterIncoming.flatMap (Stage.settingDevices config) = [] := rfl
  rw [run.options_eq]
  simp only [readGuestDevices_append, plain, migration, run.readGuestDevices_devices, before,
    between, after, List.flatMap_nil, List.append_nil]
  rw [Config.guestDevices, Config.allDevices, List.flatMap_append]

end GrantedRun

end GuestLaunch
