import GuestLaunch.Proofs.Options.Properties
import GuestLaunch.Proofs.Placement.SlotOwnership

/-!
What the transport of a virtio device decides. The name of the device and the properties that
only some transports have depend on the transport, on the one knob, and on a few fields that
all kinds of virtio devices share, whatever else is set.
-/

namespace GuestLaunch
open LaunchOption (deviceParams?)

/-- The ending that the transport gives to the name of a virtio device. -/
def Transport.ending : Transport → String
  | pci => "-pci"
  | ccw => "-ccw"
  | mmio => "-device"

/-- The fields of a virtio device on which its transport decides. -/
structure VirtioFields where
  /-- The name of the device without the ending of a transport. -/
  base : String
  /-- Whether the device is restricted to the legacy protocol. An entropy source leaves that to
  the hypervisor.
  -/
  disableModern : Option Bool
  romFile : String
  deviceNumber : String
deriving DecidableEq, Repr

/-- The fields of a device that is a virtio device, which is up to its driver for the kinds that
have several.
-/
def Device.virtioFields? : Device → Option VirtioFields
  | scsi controller =>
      some ⟨"virtio-scsi", controller.disableModern, controller.romFile,
        controller.deviceNumber⟩
  | disk device =>
      if device.driver = "virtio-blk" then
        some ⟨"virtio-blk", device.disableModern, device.romFile, device.deviceNumber⟩
      else
        none
  | char device =>
      if device.driver = "virtio-serial" then
        some ⟨"virtio-serial", device.disableModern, device.romFile, device.deviceNumber⟩
      else
        none
  | net card =>
      if card.driver = "virtio-net" then
        some ⟨"virtio-net", card.disableModern, card.romFile, card.deviceNumber⟩
      else
        none
  | entropy source =>
      if source.driver = "virtio-rng" then
        some ⟨"virtio-rng", none, source.romFile, source.deviceNumber⟩
      else
        none
  | balloon device =>
      some ⟨"virtio-balloon", device.disableModern, device.romFile, device.deviceNumber⟩
  | virtioSerial controller =>
      if controller.driver = "virtio-serial" then
        some ⟨"virtio-serial", controller.disableModern, controller.romFile,
          controller.deviceNumber⟩
      else
        none
  | _ => none

/-- No parameter is a text that stands by itself. -/
def OnlyProperties (params : List Param) : Prop :=
  ∀ param ∈ params, ∃ key value, param = .pair key value

/-- How the parameters of a virtio device follow its transport. -/
structure FollowsTransport (fields : VirtioFields) (placement : Placement)
    (params : List Param) : Prop where
  /-- The device is named after the transport. -/
  name : params.head? = some (.bare (fields.base ++ placement.transport.ending))
  /-- Behind the name there are only properties. -/
  properties : OnlyProperties params.tail
  /-- On PCI, and nowhere else, the protocol is chosen. -/
  disableModern
    : valuesUnder "disable-modern" params
      = if placement.transport = .pci then
          (fields.disableModern.map fun disable => if disable then "true" else "false").toList
        else
          []
  /-- On channel I/O, and nowhere else, there is a device number. -/
  deviceNumber
    : valuesUnder "devno" params
      = if placement.transport = .ccw then [fields.deviceNumber] else []
  /-- On PCI, and nowhere else, an option ROM is loaded, if one is set. -/
  romFile
    : valuesUnder "romfile" params
      = if placement.transport = .pci ∧ fields.romFile ≠ "" then [fields.romFile] else []
  /-- Only on channel I/O, and only with the knob, a device goes through the platform IOMMU. -/
  iommu
    : ∀ value ∈ valuesUnder "iommu_platform" params,
        value = "on" ∧ placement.transport = .ccw ∧ placement.iommuPlatform = true

-----------------------------------------------------------------------------------------
-- Parameters
-----------------------------------------------------------------------------------------

theorem Transport.deviceName_eq (transport : Transport) (base : String)
    : transport.deviceName base = base ++ transport.ending := by
  rw [deviceName, String.append_assoc]
  cases transport <;> rfl

section
variable (placement : Placement)

@[simp] theorem valuesUnder_disableModern (disable : Bool)
    : valuesUnder "disable-modern" (placement.disableModernParams disable)
      = if placement.transport = .pci then [if disable then "true" else "false"] else [] := by
  simp [Placement.disableModernParams]

@[simp] theorem valuesUnder_deviceNumber (number : String)
    : valuesUnder "devno" (placement.deviceNumberParams number)
      = if placement.transport = .ccw then [number] else [] := by
  simp [Placement.deviceNumberParams]

@[simp] theorem valuesUnder_romFile (file : String)
    : valuesUnder "romfile" (placement.romParams file)
      = if placement.transport = .pci ∧ file ≠ "" then [file] else [] := by
  by_cases pci : placement.transport = .pci <;> by_cases none : file = "" <;>
    simp [Placement.romParams, Param.unlessEmpty, pci, none]

@[simp] theorem valuesUnder_iommu
    : valuesUnder "iommu_platform" placement.iommuParams
      = if placement.transport = .ccw ∧ placement.iommuPlatform = true then ["on"] else [] := by
  by_cases ccw : placement.transport = .ccw <;> by_cases knob : placement.iommuPlatform <;>
    simp [Placement.iommuParams, Param.onWhen, ccw, knob]

end

namespace OnlyProperties

@[simp] theorem nil : OnlyProperties [] := List.forall_mem_nil _

@[simp] theorem pair_cons_iff {key value : String} {rest : List Param}
    : OnlyProperties (.pair key value :: rest) ↔ OnlyProperties rest := by
  simp [OnlyProperties]

@[simp] theorem append_iff {first second : List Param}
    : OnlyProperties (first ++ second) ↔ OnlyProperties first ∧ OnlyProperties second :=
  List.forall_mem_append

@[simp] theorem ite {condition : Prop} [Decidable condition] {first second : List Param}
    : OnlyProperties (if condition then first else second)
      ↔ if condition then OnlyProperties first else OnlyProperties second := by
  split <;> rfl

@[simp] theorem unlessEmpty (key value : String)
    : OnlyProperties (Param.unlessEmpty key value) := by
  unfold Param.unlessEmpty
  split <;> simp

@[simp] theorem onWhen (key : String) (enabled : Bool)
    : OnlyProperties (Param.onWhen key enabled) := by
  unfold Param.onWhen
  split <;> simp

theorem toList {α : Type} {item : Option α} {render : α → Param}
    (pair : ∀ value, OnlyProperties [render value])
    : OnlyProperties (item.map render).toList := by
  cases item with
  | none => exact nil
  | some value => exact pair value

theorem getD {α : Type} {item : Option α} {render : α → List Param}
    (pairs : ∀ value, OnlyProperties (render value))
    : OnlyProperties ((item.map render).getD []) := by
  cases item with
  | none => exact nil
  | some value => exact pairs value

variable (placement : Placement)

@[simp] theorem disableModernParams (disable : Bool)
    : OnlyProperties (placement.disableModernParams disable) := by
  simp [Placement.disableModernParams]

@[simp] theorem romParams (file : String) : OnlyProperties (placement.romParams file) := by
  simp [Placement.romParams]

@[simp] theorem iommuParams : OnlyProperties placement.iommuParams := by
  simp [Placement.iommuParams]

@[simp] theorem deviceNumberParams (number : String)
    : OnlyProperties (placement.deviceNumberParams number) := by
  simp [Placement.deviceNumberParams]

end OnlyProperties

-----------------------------------------------------------------------------------------
-- Kinds of virtio devices
-----------------------------------------------------------------------------------------

section Kinds
variable (placement : Placement)

theorem ScsiController.followsTransport (controller : ScsiController) (slot : Option Nat)
    : FollowsTransport
        ⟨"virtio-scsi", controller.disableModern, controller.romFile, controller.deviceNumber⟩
        placement (controller.params placement slot) := by
  have slots : OnlyProperties ((slot.map controller.slotParams).getD []) :=
    .getD fun _ => by simp [slotParams, slotParam]
  constructor
  case name => simp [params, Transport.deviceName_eq]
  case properties => simp [params, slots]
  case disableModern | deviceNumber | romFile => simp [params]
  case iommu => simp +contextual [params]

theorem Disk.followsTransport (disk : Disk) (virtio : disk.driver = "virtio-blk")
    (bootIndex : Option String) (slot : Option Nat)
    : FollowsTransport ⟨"virtio-blk", disk.disableModern, disk.romFile, disk.deviceNumber⟩
        placement (disk.deviceParams placement bootIndex slot) := by
  have own : disk.isVirtio = true := by simp [isVirtio, virtio, virtioDriver]
  have slots : OnlyProperties ((slot.map disk.slotParams).getD []) :=
    .getD fun _ => by simp [slotParams, slotParam]
  have index : OnlyProperties (bootIndex.map (Param.pair "bootindex")).toList :=
    .toList fun _ => by simp
  constructor
  case name =>
    simp [deviceParams, Placement.deviceName, Transport.deviceName_eq, virtio, virtioDriver]
  case properties =>
    simp [deviceParams, controllerParams, geometryParams, featureParams, slots, index]
  case disableModern | deviceNumber | romFile =>
    simp [deviceParams, controllerParams, geometryParams, featureParams, own]
  case iommu =>
    simp +contextual [deviceParams, controllerParams, geometryParams, featureParams]

theorem CharDevice.followsTransport (device : CharDevice)
    (virtio : device.driver = "virtio-serial")
    : FollowsTransport
        ⟨"virtio-serial", device.disableModern, device.romFile, device.deviceNumber⟩
        placement (device.deviceParams placement) := by
  have own : device.isVirtio = true := by simp [isVirtio, virtio, virtioSerialDriver]
  constructor
  case name =>
    simp [deviceParams, Placement.deviceName, Transport.deviceName_eq, virtio,
      virtioSerialDriver]
  case properties => simp [deviceParams, virtioParams]
  case disableModern | deviceNumber | romFile => simp [deviceParams, virtioParams, own]
  case iommu => simp +contextual [deviceParams, virtioParams]

theorem NetDevice.followsTransport (card : NetDevice) (slot : Option Nat)
    (bootIndex : Option String)
    : FollowsTransport ⟨"virtio-net", card.disableModern, card.romFile, card.deviceNumber⟩
        placement
        (card.cardParams placement (placement.deviceName virtioDriver "virtio-net") slot
          bootIndex) := by
  have named : placement.deviceName virtioDriver "virtio-net"
      = "virtio-net" ++ placement.transport.ending := by
    simp [Placement.deviceName, Transport.deviceName_eq, virtioDriver]
  have family : Text.startsWith ("virtio-net" ++ placement.transport.ending) "virtio" = true := by
    cases placement.transport <;> decide
  have slots : OnlyProperties (slot.map slotParam).toList :=
    .toList fun _ => by simp [slotParam]
  have index : OnlyProperties (bootIndex.map (Param.pair "bootindex")).toList :=
    .toList fun _ => by simp
  rw [named]
  constructor
  case name => simp [cardParams]
  case properties => simp [cardParams, queueParams, slots, index]
  case disableModern | deviceNumber | romFile => simp [cardParams, queueParams, family]
  case iommu => simp +contextual [cardParams, queueParams]

theorem EntropySource.followsTransport (source : EntropySource)
    (virtio : source.driver = "virtio-rng") (slot : Option Nat)
    : FollowsTransport ⟨"virtio-rng", none, source.romFile, source.deviceNumber⟩
        placement (source.deviceParams placement slot) := by
  have slots : OnlyProperties (slot.map slotParam).toList :=
    .toList fun _ => by simp [slotParam]
  constructor
  case name =>
    simp [deviceParams, Placement.deviceName, Transport.deviceName_eq, virtio, virtioDriver]
  case properties => simp [deviceParams, limitParam, slots]
  case disableModern | deviceNumber | romFile => simp [deviceParams, limitParam]
  case iommu => simp +contextual [deviceParams, limitParam]

theorem Balloon.followsTransport (balloon : Balloon)
    : FollowsTransport
        ⟨"virtio-balloon", balloon.disableModern, balloon.romFile, balloon.deviceNumber⟩
        placement (balloon.params placement) := by
  constructor
  case name => simp [params, Transport.deviceName_eq]
  case properties => simp [params]
  case disableModern | deviceNumber | romFile => simp [params]
  case iommu => simp [params]

theorem VirtioSerial.followsTransport (controller : VirtioSerial)
    (virtio : controller.driver = "virtio-serial")
    : FollowsTransport
        ⟨"virtio-serial", controller.disableModern, controller.romFile,
          controller.deviceNumber⟩
        placement (controller.params placement) := by
  constructor
  case name =>
    simp [params, Placement.deviceName, Transport.deviceName_eq, virtio, virtioSerialDriver]
  case properties => simp [params, portParams]
  case disableModern | deviceNumber | romFile => simp [params, portParams]
  case iommu => simp +contextual [params, portParams]

end Kinds

/-- A virtio device has one device option at most, which follows its transport, by the kind of
the device.
-/
theorem Device.followsTransport_optionsFor {device : Device} {fields : VirtioFields}
    (virtio : device.virtioFields? = some fields) (placement : Placement)
    (architecture : Architecture) (grants : List Grant)
    : (device.optionsFor placement architecture grants).filterMap deviceParams? = []
      ∨ ∃ params,
          (device.optionsFor placement architecture grants).filterMap deviceParams? = [params]
          ∧ FollowsTransport fields placement params := by
  cases device with
  | scsi controller =>
      cases virtio
      refine Or.inr ⟨_, ?_, controller.followsTransport placement (slotIn? grants)⟩
      cases thread : controller.ioThread.isEmpty <;>
        simp [optionsFor, ScsiController.optionsFor, ScsiController.threadOptions, thread,
          deviceParams?]
  | disk device =>
      obtain ⟨own, ⟨⟩⟩ := Option.ite_none_right_eq_some.mp virtio
      cases alone : device.driveOnly with
      | true => exact Or.inl (by simp [optionsFor, Disk.optionsFor, alone, deviceParams?])
      | false =>
          refine Or.inr ⟨_, ?_, device.followsTransport placement own
            (bootIndexFor device.bootIndex grants) (slotIn? grants)⟩
          simp only [optionsFor, Disk.optionsFor, alone]
          rfl
  | char device =>
      obtain ⟨own, ⟨⟩⟩ := Option.ite_none_right_eq_some.mp virtio
      refine Or.inr ⟨_, ?_, device.followsTransport placement own⟩
      simp [optionsFor, CharDevice.launchOptions, CharDevice.guestOptions, own,
        CharDevice.serialDriver, CharDevice.pciSerialDriver, deviceParams?]
  | net card =>
      obtain ⟨own, ⟨⟩⟩ := Option.ite_none_right_eq_some.mp virtio
      cases skipped : card.isSkipped with
      | true => exact Or.inl (by simp [optionsFor, NetDevice.optionsFor, skipped])
      | false =>
          have backend : (card.backendOptionsFor grants).filterMap deviceParams? = [] := by
            unfold NetDevice.backendOptionsFor
            split <;> rfl
          refine Or.inr ⟨_, ?_, card.followsTransport placement (slotIn? grants)
            (bootIndexFor card.bootIndex grants)⟩
          simp [optionsFor, NetDevice.optionsFor, skipped, backend, NetDevice.cardOptionsFor,
            own, deviceParams?]
  | entropy source =>
      obtain ⟨own, ⟨⟩⟩ := Option.ite_none_right_eq_some.mp virtio
      exact Or.inr ⟨_, rfl, source.followsTransport placement own (slotIn? grants)⟩
  | balloon device =>
      cases virtio
      exact Or.inr ⟨_, rfl, device.followsTransport placement⟩
  | virtioSerial controller =>
      obtain ⟨own, ⟨⟩⟩ := Option.ite_none_right_eq_some.mp virtio
      exact Or.inr ⟨_, rfl, controller.followsTransport placement own⟩
  | _ => cases virtio

/-- The device option of a virtio device that is rendered is its only one and follows the
transport that has been resolved for the device.
-/
theorem Device.followsTransport_of_render {device : Device} {fields : VirtioFields}
    {placement : Placement} {architecture : Architecture} {state after : RunState}
    {options : List LaunchOption} {params : List Param}
    (virtio : device.virtioFields? = some fields)
    (rendered : (device.render placement architecture).run state = (.ok options, after))
    (emitted : .setting .device params ∈ options)
    : options.filterMap deviceParams? = [params]
      ∧ FollowsTransport fields placement params := by
  obtain ⟨grants, _, rfl⟩ := exists_optionsFor_of_render rendered
  have listed : params
      ∈ (device.optionsFor placement architecture grants).filterMap deviceParams? :=
    List.mem_filterMap.mpr ⟨_, emitted, rfl⟩
  rcases followsTransport_optionsFor virtio placement architecture grants with
    none | ⟨own, only, follows⟩
  · rw [none] at listed
    cases listed
  · rw [only] at listed ⊢
    cases List.mem_singleton.mp listed
    exact ⟨rfl, follows⟩

/-- A card with queues, an option ROM and a device number. -/
def queuedCard : NetDevice where
  id := "n0"
  driver := "virtio-net"
  type := .tap
  queues := [7]
  mac := "52:54:00:00:00:01"
  disableModern := true
  romFile := "efi.rom"
  deviceNumber := "fe.0.0001"

/-- On channel I/O the card has its device number and the IOMMU, and neither the choice of the
protocol nor the option ROM.
-/
theorem followsTransport_queuedCard
    : let placement : Placement := { transport := .ccw, iommuPlatform := true }
      let params : List Param :=
        [.bare "virtio-net-ccw", .pair "netdev" "n0", .pair "mac" "52:54:00:00:00:01",
          .pair "mq" "on", .pair "iommu_platform" "on", .pair "devno" "fe.0.0001"]
      (((Device.net queuedCard).render placement .s390x).run (.initial .strict)).1.toOption
          = some
            [.setting .netdev [.bare "tap", .pair "id" "n0", .pair "fds" "3"],
              .setting .device params]
        ∧ FollowsTransport ⟨"virtio-net", true, "efi.rom", "fe.0.0001"⟩ placement params := by
  intro placement params
  have rendered : (((Device.net queuedCard).render placement .s390x).run
        (.initial .strict)).1.toOption
      = some
        [.setting .netdev [.bare "tap", .pair "id" "n0", .pair "fds" "3"],
          .setting .device params] := by
    decide +kernel
  exact ⟨rendered, (Device.followsTransport_of_render (by decide)
    (Render.run_of_toOption rendered) (by simp)).2⟩

end GuestLaunch
