import GuestLaunch.Proofs.GuestDevices.Readback
import GuestLaunch.Proofs.Outcome.Validity
import Mathlib.Data.Option.Basic

/-!
The drivers of the devices. Validation asks for a driver of every kind of device that passes its
driver on to the guest, apart from the character devices: they may be endpoints on the host only.
-/

namespace GuestLaunch

/-- The name of a device is present and not empty. -/
def GuestDevice.namesDriver (device : GuestDevice) : Bool :=
  device.name.any fun name => !name.isEmpty

/-- Every device option names a driver. -/
def NamesDrivers (options : List LaunchOption) : Prop :=
  ∀ shown ∈ readGuestDevices options, shown.namesDriver = true

/-- What an assembly puts into the guest without the name of a driver. -/
structure RenderedDrivers (config : Config) (options : List LaunchOption) : Prop where
  /-- The devices without a driver are those of the character devices without one, one for each.
  -/
  unnamed
    : (readGuestDevices options).filter (fun shown => !shown.namesDriver)
      = (config.charDevices.filter fun device => device.driver.isEmpty).map fun _ =>
          { name := "" }
  /-- All devices have drivers, unless some character device has none. -/
  named : NamesDrivers options ↔ ∀ device ∈ config.charDevices, device.driver ≠ ""

/-- The driver that validation asks for. -/
def Device.requiredDriver? : Device → Option String
  | ide controller | usb controller => some controller.driver
  | disk device => some device.driver
  | entropy source => some source.driver
  | virtioSerial controller => some controller.driver
  | tpm device => some device.driver
  | _ => none

/-- What a device puts into the guest without the name of a driver. -/
def Device.driverless? : Device → Option GuestDevice
  | char device => if device.driver.isEmpty then some { name := "" } else none
  | _ => none

-----------------------------------------------------------------------------------------
-- Valid devices
-----------------------------------------------------------------------------------------

section
variable {device : Device} {placement : Placement} {architecture : Architecture}

/-- A valid device has the driver that it needs, by its kind. -/
theorem Device.driver_ne_empty_of_required (valid : device.problem? = none) {driver : String}
    (required : driver ∈ device.requiredDriver?)
    : driver ≠ "" := by
  cases device with
  | ide controller | usb controller =>
      cases required
      simp only [problem?, PciController.problem?, Option.orElse_eq_none,
        checkPresent_eq_none_iff] at valid
      exact valid.2
  | disk disk =>
      cases required
      simp only [problem?, Disk.problem?, Option.orElse_eq_none, checkPresent_eq_none_iff]
        at valid
      exact valid.2.1
  | entropy source =>
      cases required
      simp only [problem?, EntropySource.problem?, Option.orElse_eq_none,
        checkPresent_eq_none_iff] at valid
      exact valid.2
  | virtioSerial controller =>
      cases required
      simp only [problem?, VirtioSerial.problem?, Option.orElse_eq_none,
        checkPresent_eq_none_iff] at valid
      exact valid.1
  | tpm module =>
      cases required
      simp only [problem?, Tpm.problem?, Option.orElse_eq_none, checkPresent_eq_none_iff]
        at valid
      exact valid.2.1
  | _ => cases required

/-- A numbered device that is valid has a driver, by its kind. -/
theorem Device.driver_ne_empty_of_numbered (valid : device.problem? = none)
    {fields : ChannelFields} (numbered : fields ∈ device.channelFields?)
    : fields.driver ≠ "" := by
  cases device with
  | scsi | balloon =>
      cases numbered
      simp
  | disk disk =>
      obtain ⟨_, ⟨⟩⟩ := Option.ite_none_left_eq_some.mp numbered
      exact driver_ne_empty_of_required valid rfl
  | char =>
      obtain ⟨_, ⟨⟩⟩ := Option.ite_none_right_eq_some.mp numbered
      simp
  | net card =>
      obtain ⟨rendered, ⟨⟩⟩ := Option.ite_none_left_eq_some.mp numbered
      exact fun empty => rendered (Or.inr empty)
  | entropy source | virtioSerial source =>
      cases numbered
      exact driver_ne_empty_of_required valid rfl
  | _ => cases numbered

theorem Transport.deviceName_ne_empty (transport : Transport) (base : String)
    : transport.deviceName base ≠ "" := by
  rw [deviceName_eq]
  cases transport <;> simp [ending]

theorem ChannelFields.namesDriver_guestDevice {fields : ChannelFields}
    (present : fields.driver ≠ "")
    : (fields.guestDevice placement).namesDriver = true := by
  unfold guestDevice GuestDevice.namesDriver Placement.deviceName
  split
  · simp [Transport.deviceName_ne_empty]
  · simp [present]

/-- The fixed names of a valid device are not empty unless that of a character device is, by the
kind of the device.
-/
theorem Device.fixedName_ne_empty (valid : device.problem? = none)
    (driven : device.driverless? = none) {name : String}
    (fixed : name ∈ device.fixedNames architecture)
    : name ≠ "" := by
  cases device with
  | rootPort | spice =>
      intro empty
      simp [fixedNames, empty] at fixed
  | bridge bridge =>
      intro empty
      unfold fixedNames at fixed
      cases type : bridge.type <;> simp [type, empty] at fixed
  | ide controller | usb controller =>
      obtain rfl := List.mem_singleton.mp fixed
      exact driver_ne_empty_of_required valid rfl
  | char endpoint =>
      obtain ⟨_, own⟩ := List.mem_ite_nil_left.mp fixed
      obtain rfl := List.mem_singleton.mp own
      simpa [driverless?] using driven
  | tpm module =>
      obtain rfl := List.mem_singleton.mp fixed
      have present : module.driver ≠ "" := driver_ne_empty_of_required valid rfl
      unfold Tpm.deviceName
      split <;> simp [present]
  | _ => cases fixed

/-- A valid device puts devices with drivers into the guest, unless it is a character device
without one.
-/
theorem Device.filter_guestDevices (valid : device.problem? = none)
    : (device.guestDevices placement architecture).filter (fun shown => !shown.namesDriver)
      = device.driverless?.toList := by
  cases driven : device.driverless? with
  | none =>
      apply List.filter_eq_nil_iff.mpr
      intro shown member
      rcases mem_guestDevices.mp member with ⟨fields, numbered, rfl⟩ | ⟨name, own, rfl⟩
      · simp [ChannelFields.namesDriver_guestDevice (driver_ne_empty_of_numbered valid numbered)]
      · simp [GuestDevice.namesDriver, fixedName_ne_empty valid driven own]
  | some shown =>
      cases device with
      | char endpoint =>
          obtain ⟨empty, ⟨⟩⟩ := Option.ite_none_right_eq_some.mp driven
          have bare : endpoint.driver = "" := String.isEmpty_iff.mp empty
          simp [guestDevices, channelFields?, fixedNames, bare, GuestDevice.namesDriver]
      | _ => cases driven

end

-----------------------------------------------------------------------------------------
-- Assemblies
-----------------------------------------------------------------------------------------

namespace Config

/-- In a configuration without problems the devices among the settings pass their own checks too,
by the stage.
-/
theorem problem?_of_mem_allDevices {config : Config} (valid : config.problems = [])
    {device : Device} (member : device ∈ config.allDevices)
    : device.problem? = none := by
  rcases List.mem_append.mp member with set | listed
  · have settings : (config.spice.bind Spice.problem?).toList = []
        ∧ (config.tpm.bind Tpm.problem?).toList = [] := by
      simp only [problems, List.append_eq_nil_iff] at valid
      exact ⟨valid.1.1.1.1.1.2, valid.1.1.1.1.2⟩
    obtain ⟨spice, tpm⟩ := settings
    obtain ⟨stage, _, own⟩ := List.mem_flatMap.mp set
    cases stage with
    | display =>
        obtain ⟨display, present, rfl⟩ := List.mem_map.mp own
        rw [Option.mem_toList.mp present] at spice
        exact Option.toList_eq_nil_iff.mp spice
    | tpm =>
        obtain ⟨module, present, rfl⟩ := List.mem_map.mp own
        rw [Option.mem_toList.mp present] at tpm
        exact Option.toList_eq_nil_iff.mp tpm
    | _ => cases own
  · exact problem?_of_valid valid listed

/-- Only the character devices may lack drivers. -/
theorem filterMap_driverless? (config : Config)
    : config.allDevices.filterMap Device.driverless?
      = (config.charDevices.filter fun device => device.driver.isEmpty).map fun _ =>
          { name := "" } := by
  have set : (Stage.all.flatMap (Stage.settingDevices config)).filterMap Device.driverless?
      = [] := by
    simp [Stage.all, Stage.settingDevices, List.filterMap_map, Function.comp_def,
      Device.driverless?]
  have listed : config.devices.filterMap Device.driverless?
      = config.charDevices.filterMap fun device =>
          if device.driver.isEmpty = true then some { name := "" } else none := by
    simp [devices, Category.all, Category.devices, List.filterMap_map, Function.comp_def,
      Device.driverless?]
  rw [allDevices, List.filterMap_append, set, listed, List.nil_append, ← List.filterMap_eq_map,
    List.filterMap_filter]
  rfl

end Config

/-- An assembly names drivers for all devices but those of the character devices without one. -/
theorem renderedDrivers_of_build {settings : BuildSettings} {config : Config}
    {invocation : Invocation} (built : (build settings config).outcome = .ok invocation)
    : RenderedDrivers config invocation.options := by
  obtain ⟨valid, run, rfl⟩ := build_ok_iff.mp built
  have unnamed : (readGuestDevices run.invocation.options).filter
        (fun shown => !shown.namesDriver)
      = (config.charDevices.filter fun device => device.driver.isEmpty).map fun _ =>
          { name := "" } := by
    rw [run.readGuestDevices_invocation, Config.guestDevices, List.filter_flatMap,
      ← config.filterMap_driverless?, List.filterMap_eq_flatMap_toList]
    exact List.flatMap_congr fun device member =>
      Device.filter_guestDevices (Config.problem?_of_mem_allDevices valid member)
  refine ⟨unnamed, ?_⟩
  have named : NamesDrivers run.invocation.options
      ↔ (readGuestDevices run.invocation.options).filter (fun shown => !shown.namesDriver)
        = [] := by
    simp [NamesDrivers, List.filter_eq_nil_iff]
  rw [named, unnamed, List.map_eq_nil_iff, List.filter_eq_nil_iff]
  simp

/-- A guest with a port on a virtio controller and with an old serial port. -/
def driverGuest : Config where
  charDevices :=
    [{ id := "c0", driver := "virtserialport", path := "/run/c0.sock" },
      { id := "c1", driver := "pci-serial", path := "/run/c1.sock" }]

/-- Every device of the guest has a driver. -/
theorem renderedDrivers_driverGuest
    : ∃ invocation,
        (build {} driverGuest).outcome = .ok invocation
        ∧ NamesDrivers invocation.options
        ∧ readGuestDevices invocation.options = [{ name := "virtserialport" }] := by
  have succeeds : (build {} driverGuest).outcome.toOption.isSome = true := by
    decide +kernel
  obtain ⟨invocation, built⟩ := BuildReport.exists_invocation succeeds
  have rendered := renderedDrivers_of_build built
  refine ⟨invocation, built, rendered.named.mpr (by decide), ?_⟩
  obtain ⟨_, run, rfl⟩ := build_ok_iff.mp built
  rw [run.readGuestDevices_invocation]
  decide +kernel

/-- A guest with a socket that no device of the guest is meant to use. -/
def endpointGuest : Config where
  charDevices := [{ id := "c0", path := "/run/c0.sock" }]

/-- The guest is assembled, with a device that has no driver. -/
theorem not_namesDrivers_endpointGuest
    : ∃ invocation,
        (build {} endpointGuest).outcome = .ok invocation
        ∧ readGuestDevices invocation.options = [{ name := "" }]
        ∧ ¬NamesDrivers invocation.options := by
  have succeeds : (build {} endpointGuest).outcome.toOption.isSome = true := by
    decide +kernel
  obtain ⟨invocation, built⟩ := BuildReport.exists_invocation succeeds
  obtain ⟨_, run, rfl⟩ := build_ok_iff.mp built
  have shown : readGuestDevices run.invocation.options = [{ name := "" }] := by
    rw [run.readGuestDevices_invocation]
    decide +kernel
  refine ⟨_, built, shown, ?_⟩
  intro named
  exact absurd (named { name := "" } (by simp [shown])) (by decide)

end GuestLaunch
