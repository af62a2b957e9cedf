import GuestLaunch.Proofs.Outcome.Classification
import GuestLaunch.Proofs.Problems.SettingChecks

/-!
What the devices of a guest have to be. Each kind has fields that must not be empty, and some kinds
restrict what may be combined; the check of a device passes exactly if all of this is kept.
-/

namespace GuestLaunch

/-- A boot index that may be configured: none, the keyword, or a decimal number of 32 bits. -/
def IsBootIndex (configured : Option String) : Prop :=
  ∀ text ∈ configured,
    text = "" ∨ text = "auto"
    ∨ ∃ index : UInt32, Text.Numeral.WritesNatural 10 text.toList index.toNat

/-- A switch that may be configured. -/
def IsSwitch (text : String) : Prop := text ∈ ["", "on", "off"]

/-- Without a kind, an endpoint is either a name or a character device; else it is a socket with a
path.
-/
def Endpoint.WellFormed (endpoint : Endpoint) : Prop :=
  match endpoint.backend with
  | none => endpoint.name = "" ↔ endpoint.charDeviceId ≠ ""
  | some kind => kind = .socket ∧ endpoint.path ≠ ""

/-- A card has an identifier and a supported kind of backend, which is named by what it needs. -/
structure NetDevice.WellFormed (device : NetDevice) : Prop where
  named : device.id ≠ ""
  supported : device.type ∈ [.user, .multicastSocket, .tap, .macvtap]
  interface : device.type = .tap → device.queues = [] → device.tap.interface ≠ ""
  group
    : device.type = .multicastSocket
      → device.multicast.address ≠ "" ∧ device.multicast.port ≠ ""
  bootIndex : IsBootIndex device.bootIndex

/-- A disk has all of its five texts, and a virtio disk does not rotate. -/
structure Disk.WellFormed (disk : Disk) : Prop where
  complete : "" ∉ [disk.id, disk.driver, disk.file, disk.interface, disk.format]
  still : "virtio".toList <+: disk.driver.toList → disk.rotationRate = 0
  bootIndex : IsBootIndex disk.bootIndex

/-- What a device has to be, by its kind. -/
def Device.WellFormed : Device → Prop
  | rootPort port => (port.pref64Reserve = "" ∨ port.pref32Reserve = "") ∧ port.id ≠ ""
  | bridge device => device.bus ≠ "" ∧ device.id ≠ ""
  | scsi controller => controller.id ≠ ""
  | ide controller | usb controller => controller.id ≠ "" ∧ controller.driver ≠ ""
  | disk device => device.WellFormed
  | char device =>
      device.id ≠ "" ∧ (device.backend ≠ .stdio → device.path ≠ "")
      ∧ IsSwitch device.multiplex ∧ IsSwitch device.signal
  | legacySerial port => port.withMonitor = false → port.endpoint.WellFormed
  | monitor device => device.endpoint.WellFormed
  | net device => device.WellFormed
  | entropy source => source.id ≠ "" ∧ source.driver ≠ ""
  | balloon device => device.id ≠ ""
  | virtioSerial controller => controller.driver ≠ "" ∧ controller.id ≠ ""
  | flash pair => pair.code ≠ "" ∧ pair.store ≠ ""
  | spice display => display.port = "" ↔ display.tlsPort ≠ ""
  | tpm device =>
      device.id ≠ "" ∧ device.driver ≠ "" ∧ device.path ≠ ""
      ∧ device.type ∈ ["emulator", "passthrough"]

-----------------------------------------------------------------------------------------
-- Shared checks
-----------------------------------------------------------------------------------------

section
variable {subject field value : String}

theorem checkOnOff_eq_none_iff : checkOnOff subject field value = none ↔ IsSwitch value := by
  rw [checkOnOff, checkOneOf_eq_none_iff]
  exact List.mem_cons.symm

theorem BootIndex.check_eq_none_iff {configured : Option String}
    : BootIndex.check subject configured = none ↔ IsBootIndex configured := by
  cases configured with
  | none => simp [check, IsBootIndex]
  | some text =>
      have explicit : (explicit? text).isSome = true
          ↔ ∃ index : UInt32, Text.Numeral.WritesNatural 10 text.toList index.toNat := by
        simp only [Option.isSome_iff_exists, explicit?_eq_some_iff]
      have allowed : (text.isEmpty || text == "auto" || (explicit? text).isSome) = true
          ↔ text = "" ∨ text = "auto"
            ∨ ∃ index : UInt32, Text.Numeral.WritesNatural 10 text.toList index.toNat := by
        rw [← explicit]
        simp [or_assoc]
      rw [check, automatic, ite_eq_left_iff]
      simp only [allowed, reduceCtorEq, imp_false, not_not, IsBootIndex, Option.mem_some_iff,
        forall_eq']

end

-----------------------------------------------------------------------------------------
-- The kinds of devices
-----------------------------------------------------------------------------------------

theorem Endpoint.problem?_eq_none_iff (endpoint : Endpoint) (label : String)
    : endpoint.problem? label = none ↔ endpoint.WellFormed := by
  unfold problem? WellFormed
  cases endpoint.backend with
  | none => exact checkExactlyOne_eq_none_iff
  | some kind => cases kind <;> simp [checkPresent_eq_none_iff]

theorem NetDevice.problem?_eq_none_iff (device : NetDevice)
    : device.problem? = none ↔ device.WellFormed := by
  have type : device.checkType = none
      ↔ device.type ∈ [.user, .multicastSocket, .tap, .macvtap] := by
    unfold checkType
    cases device.type <;> simp [NetType.isSupported]
  have tap : device.checkTap = none
      ↔ (device.type = .tap → device.queues = [] → device.tap.interface ≠ "") := by
    simp only [checkTap, ite_eq_right_iff, checkPresent_eq_none_iff, and_imp]
  have group : device.checkMulticast = none
      ↔ (device.type = .multicastSocket
          → device.multicast.address ≠ "" ∧ device.multicast.port ≠ "") := by
    simp only [checkMulticast, ite_eq_right_iff, Option.orElse_eq_none, checkPresent_eq_none_iff]
  simp only [problem?, Option.orElse_eq_none, checkPresent_eq_none_iff, type, tap, group,
    BootIndex.check_eq_none_iff]
  constructor
  · rintro ⟨named, supported, interface, group, bootIndex⟩
    exact ⟨named, supported, interface, group, bootIndex⟩
  · rintro ⟨named, supported, interface, group, bootIndex⟩
    exact ⟨named, supported, interface, group, bootIndex⟩

theorem Disk.problem?_eq_none_iff (disk : Disk) : disk.problem? = none ↔ disk.WellFormed := by
  have family : disk.hasVirtioFamily = true ↔ "virtio".toList <+: disk.driver.toList := by
    rw [hasVirtioFamily, Text.startsWith, List.isPrefixOf_iff_prefix]
  have rotation : disk.checkRotation = none
      ↔ ("virtio".toList <+: disk.driver.toList → disk.rotationRate = 0) := by
    simp only [checkRotation, ite_eq_right_iff, reduceCtorEq, imp_false, Bool.and_eq_true,
      decide_eq_true_eq, not_and', family, UInt32.not_lt, UInt32.le_zero_iff]
  simp only [problem?, Option.orElse_eq_none, checkPresent_eq_none_iff, rotation,
    BootIndex.check_eq_none_iff]
  constructor
  · rintro ⟨id, driver, file, interface, format, still, bootIndex⟩
    refine ⟨?_, still, bootIndex⟩
    simp [id.symm, driver.symm, file.symm, interface.symm, format.symm]
  · rintro ⟨complete, still, bootIndex⟩
    simp only [List.mem_cons, List.not_mem_nil, or_false, not_or, eq_comm (a := "")] at complete
    obtain ⟨id, driver, file, interface, format⟩ := complete
    exact ⟨id, driver, file, interface, format, still, bootIndex⟩

/-- The check of a device passes exactly if the device is what it has to be, by its kind. -/
theorem Device.problem?_eq_none_iff (device : Device)
    : device.problem? = none ↔ device.WellFormed := by
  unfold problem? WellFormed
  cases device with
  | rootPort port =>
      simp [RootPort.problem?, checkPresent_eq_none_iff, Decidable.or_iff_not_imp_left]
  | char device =>
      simp only [CharDevice.problem?, Option.orElse_eq_none, checkPresent_eq_none_iff,
        checkOnOff_eq_none_iff, ite_eq_left_iff]
  | legacySerial port =>
      cases shared : port.withMonitor <;>
        simp [LegacySerial.problem?, shared, Endpoint.problem?_eq_none_iff]
  | monitor device => exact device.endpoint.problem?_eq_none_iff _
  | net device => exact device.problem?_eq_none_iff
  | disk device => exact device.problem?_eq_none_iff
  | spice display => exact display.problem?_eq_none_iff
  | tpm device => exact device.problem?_eq_none_iff
  | scsi | balloon => exact checkPresent_eq_none_iff
  | bridge | ide | usb | entropy | virtioSerial | flash =>
      simp [Bridge.problem?, PciController.problem?, EntropySource.problem?, VirtioSerial.problem?,
        FlashPair.problem?, checkPresent_eq_none_iff]

end GuestLaunch
