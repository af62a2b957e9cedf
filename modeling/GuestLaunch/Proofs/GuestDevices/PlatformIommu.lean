import GuestLaunch.Proofs.GuestDevices.DeviceNumbers

/-!
The knob for the platform IOMMU. It is one knob for the whole guest, but every kind of device has
to heed it by itself: what the knob reaches is what its kind passes on.
-/

namespace GuestLaunch

/-- The virtio drivers. -/
def virtioBases : List String :=
  ["virtio-scsi", "virtio-blk", "virtio-net", "virtio-rng", "virtio-balloon", "virtio-serial"]

/-- The names of the virtio devices on channel I/O. -/
def channelNames : List String := virtioBases.map Transport.ccw.deviceName

/-- The knob for the platform IOMMU reaches what it is for. -/
structure KnobReaches (knob : Bool) (options : List LaunchOption) : Prop where
  /-- With the knob every virtio device on channel I/O goes through the platform IOMMU. -/
  on
    : knob = true →
        ∀ shown ∈ readGuestDevices options, ∀ name ∈ shown.name,
          name ∈ channelNames → "on" ∈ shown.iommu
  /-- Without the knob no option has the property, whatever its flag is. -/
  off : knob = false → ∀ flag, propertyValues flag "iommu_platform" options = []

/-- A numbered device is a virtio device on channel I/O that the knob does not reach: one that does
not heed the knob, or one that is so named by its own driver while the transport is another.
-/
def ChannelFields.BypassesKnob (fields : ChannelFields) (transport : Transport) : Prop :=
  if transport = .ccw then
    fields.heedsKnob = false ∧ (fields.driver = fields.base ∨ fields.driver ∈ channelNames)
  else
    fields.driver ∈ channelNames

/-- A device puts a virtio device on channel I/O into the guest that the knob does not reach. The
knob does not reach names that are fixed.
-/
def Device.BypassesKnob (device : Device) (transport : Transport) (architecture : Architecture)
    : Prop :=
  (∃ fields ∈ device.channelFields?, fields.BypassesKnob transport)
  ∨ ∃ name ∈ device.fixedNames architecture, name ∈ channelNames

instance (fields : ChannelFields) (transport : Transport)
    : Decidable (fields.BypassesKnob transport) :=
  inferInstanceAs (Decidable (if transport = .ccw then _ else _))

instance (device : Device) (transport : Transport) (architecture : Architecture)
    : Decidable (device.BypassesKnob transport architecture) :=
  inferInstanceAs (Decidable (_ ∨ _))

/-- How an assembly passes on the knob for the platform IOMMU. -/
structure RenderedIommu (settings : BuildSettings) (config : Config)
    (options : List LaunchOption) : Prop where
  /-- Which devices are in the guest, and which of them go through the platform IOMMU. -/
  devices : readGuestDevices options = config.guestDevices settings
  /-- Only device options have the property. -/
  elsewhere : ∀ flag, flag ≠ .device → propertyValues flag "iommu_platform" options = []
  /-- The knob reaches everything, unless it is set and some device bypasses it. -/
  reaches
    : KnobReaches config.knobs.iommuPlatform options
      ↔ (config.knobs.iommuPlatform = true →
          ∀ device ∈ config.allDevices,
            ¬device.BypassesKnob (settings.placementOf config device).transport
              settings.architecture)

-----------------------------------------------------------------------------------------
-- Flags other than that of the devices
-----------------------------------------------------------------------------------------

section
variable {flag : Flag}

theorem Smbios.propertyValues_tableOptions {key : String} {fields : List (String × String)}
    (other : ∀ field ∈ fields, field.1 ≠ key) (untyped : "type" ≠ key) (type : Nat)
    : propertyValues flag key (tableOptions type fields) = [] := by
  have silent : valuesUnder key (fields.flatMap fun field => Param.unlessEmpty field.1 field.2)
      = [] := by
    rw [valuesUnder, List.filterMap_flatMap]
    exact List.flatMap_eq_nil_iff.mpr fun field member =>
      valuesUnder_unlessEmpty (other field member) field.2
  unfold tableOptions
  split
  · rfl
  · simp [untyped, silent]

theorem Smbios.iommuValues_launchOptions (smbios : Smbios)
    : propertyValues flag "iommu_platform" smbios.launchOptions = [] := by
  simp [launchOptions, fileOptions, propertyValues_flatMap, propertyValues_tableOptions,
    Bios.launchOptions, SystemInfo.launchOptions, Baseboard.launchOptions,
    Chassis.launchOptions, Processor.launchOptions, MemoryDevice.launchOptions]

theorem Memory.iommuValues_backendOptions (memory : Memory) (knobs : Knobs) (asNode : Bool)
    : propertyValues flag "iommu_platform" (memory.backendOptions knobs asNode) = [] := by
  have file : valuesUnder "iommu_platform" (memory.backing knobs).2 = [] := by
    unfold backing
    split
    · simp
    · split <;> simp
  unfold backendOptions
  cases asNode <;> simp [file]

theorem Knobs.iommuValues_launchOptions (knobs : Knobs)
    : propertyValues flag "iommu_platform" knobs.launchOptions = [] := by
  have choices : ∀ choice ∈ knobs.choices,
      choice.2.valuesUnder flag "iommu_platform" = [] := by
    simp [Knobs.choices, LaunchOption.valuesUnder]
  apply List.flatMap_eq_nil_iff.mpr
  intro option member
  obtain ⟨choice, chosen, rfl⟩ := List.mem_map.mp member
  exact choices choice (List.mem_filter.mp chosen).1

/-- No setting of a stage has the property, by the stage. -/
theorem Stage.iommuValues_settings (stage : Stage) (config : Config) (host : Host)
    : propertyValues flag "iommu_platform" (stage.settings config host) = [] := by
  cases stage with
  | identity | vga | bios | files | sandbox =>
      simp [settings, LaunchOption.unlessEmpty, LaunchOption.value]
  | globals | flashImages =>
      simp [settings, propertyValues_flatMap, LaunchOption.unlessEmpty, LaunchOption.value]
  | machine =>
      have switches : valuesUnder "iommu_platform"
          (config.machine.switches.flatMap fun switch =>
            Param.unlessEmpty switch.property switch.value) = [] := by
        simp [Machine.switches]
      simp [settings, Machine.launchOptions, Machine.params, switches]
  | cpu =>
      have flags : valuesUnder "iommu_platform" (config.cpuFlags.map Param.bare) = [] :=
        List.filterMap_eq_nil_iff.mpr (List.forall_mem_map.mpr fun _ _ => rfl)
      simp [settings, Config.cpuOptions, flags]
  | display =>
      show propertyValues flag _ ((config.spice.map Spice.launchOptions).getD []) = []
      cases config.spice with
      | none => rfl
      | some spice => simp [Spice.launchOptions, Spice.serverParams]
  | tpm =>
      show propertyValues flag _
        ((config.tpm.map fun tpm => tpm.launchOptions host.architecture).getD []) = []
      cases config.tpm with
      | none => rfl
      | some tpm => simp [Tpm.launchOptions]
  | smbios => exact config.smbios.iommuValues_launchOptions
  | control => simp [settings, propertyValues_flatMap, ControlSocket.launchOptions]
  | memory => simp [settings, Memory.launchOptions]
  | devices | incoming => rfl
  | clock =>
      unfold settings Config.clockOptions
      cases config.clock with
      | none => rfl
      | some clock => simp [Clock.launchOptions]
  | knobs => simp [settings, Memory.iommuValues_backendOptions, Knobs.iommuValues_launchOptions]
  | kernel =>
      simp [settings, KernelBoot.launchOptions, LaunchOption.unlessEmpty, LaunchOption.value]
  | ioThreads => simp [settings, propertyValues_flatMap, IoThread.launchOptions]
  | firmwareBlobs =>
      have blobs (blob : FirmwareBlob)
          : propertyValues flag "iommu_platform" blob.validOptions = [] := by
        unfold FirmwareBlob.validOptions
        cases blob.problem? <;> simp [FirmwareBlob.launchOptions]
      simp [settings, propertyValues_flatMap, blobs]
  | processors => simp [settings, Processors.launchOptions, Processors.countParam]

theorem NetDevice.iommuValues_backendOptionsFor (device : NetDevice) (grants : List Grant)
    : propertyValues flag "iommu_platform" (device.backendOptionsFor grants) = [] := by
  have named : valuesUnder "iommu_platform" device.namedParams = [] :=
    device.valuesUnder_namedParams (by decide)
  unfold backendOptionsFor
  split
  · rfl
  · simp [backendParamsFor, named, vhostKey, queueKey]

/-- No option of a device has the property under another flag than its own, by the kind of the
device.
-/
theorem Device.iommuValues_optionsFor (other : flag ≠ .device) (device : Device)
    (placement : Placement) (architecture : Architecture) (grants : List Grant)
    : propertyValues flag "iommu_platform" (device.optionsFor placement architecture grants)
      = [] := by
  cases device with
  | rootPort | bridge | ide | usb | balloon | virtioSerial =>
      exact (usesOnly_optionsFor _ placement architecture grants).propertyValues_eq_nil
        (by simpa [flags] using other)
  | scsi device =>
      simp [optionsFor, ScsiController.optionsFor, ScsiController.threadOptions, other.symm]
  | disk device => simp [optionsFor, Disk.optionsFor, Disk.driveParams, other.symm]
  | char device =>
      simp [optionsFor, CharDevice.launchOptions, CharDevice.guestOptions,
        CharDevice.endpointParams, LaunchOption.value, other.symm]
  | legacySerial device => simp [optionsFor, LegacySerial.launchOptions]
  | monitor device => simp [optionsFor, Monitor.launchOptions]
  | net device =>
      simp [optionsFor, NetDevice.optionsFor, NetDevice.cardOptionsFor,
        NetDevice.iommuValues_backendOptionsFor, other.symm]
  | entropy device =>
      simp [optionsFor, EntropySource.optionsFor, EntropySource.objectParams, other.symm]
  | flash device => simp [optionsFor, FlashPair.launchOptions]
  | spice device => simp [optionsFor, Spice.launchOptions, Spice.serverParams]
  | tpm device => simp [optionsFor, Tpm.launchOptions]

/-- No option of an assembly has the property under another flag than that of the devices. -/
theorem GrantedRun.iommuValues_options {settings : BuildSettings} {config : Config}
    (run : GrantedRun settings config) (other : flag ≠ .device)
    : propertyValues flag "iommu_platform" run.invocation.options = [] := by
  apply List.flatMap_eq_nil_iff.mpr
  refine run.forall_mem_options ?ofStage ?ofStep ?ofMigration
  case ofStage =>
    intro stage
    exact List.flatMap_eq_nil_iff.mp (stage.iommuValues_settings config _)
  case ofStep =>
    intro step member
    obtain ⟨grants, _, rendered⟩ := run.step_granted member
    rw [rendered]
    exact List.flatMap_eq_nil_iff.mp (step.planned.device.iommuValues_optionsFor other _ _ _)
  case ofMigration =>
    unfold Migration.optionsFor
    cases config.incoming.uriFor? run.incoming <;>
      simp [LaunchOption.value, LaunchOption.valuesUnder]

end

-----------------------------------------------------------------------------------------
-- Devices that bypass the knob
-----------------------------------------------------------------------------------------

/-- Of the transports only channel I/O completes a virtio driver to such a name, by the transport.
-/
theorem deviceName_mem_channelNames_iff {base : String} (virtio : base ∈ virtioBases)
    (transport : Transport)
    : transport.deviceName base ∈ channelNames ↔ transport = .ccw := by
  revert base
  cases transport <;> decide

theorem not_mem_channelNames {base : String} (virtio : base ∈ virtioBases)
    : base ∉ channelNames := by
  revert base
  decide

theorem Device.base_mem_virtioBases {device : Device} {fields : ChannelFields}
    (numbered : fields ∈ device.channelFields?)
    : fields.base ∈ virtioBases := by
  cases device with
  | scsi | entropy | balloon | virtioSerial =>
      cases numbered
      simp [virtioBases]
  | disk | net =>
      obtain ⟨_, ⟨⟩⟩ := Option.ite_none_left_eq_some.mp numbered
      simp [virtioBases]
  | char =>
      obtain ⟨_, ⟨⟩⟩ := Option.ite_none_right_eq_some.mp numbered
      simp [virtioBases]
  | _ => cases numbered

section
variable {placement : Placement}

/-- A numbered device bypasses the knob if it is named as a virtio device on channel I/O and does
not go through the platform IOMMU, by the transport.
-/
theorem ChannelFields.bypassesKnob_iff {fields : ChannelFields}
    (virtio : fields.base ∈ virtioBases) (knob : placement.iommuPlatform = true)
    : fields.BypassesKnob placement.transport
      ↔ placement.deviceName fields.base fields.driver ∈ channelNames
        ∧ "on" ∉ (fields.guestDevice placement).iommu := by
  unfold BypassesKnob Placement.deviceName
  by_cases ccw : placement.transport = .ccw
  · have named := (deviceName_mem_channelNames_iff virtio .ccw).mpr rfl
    by_cases completed : fields.driver = fields.base <;>
      simp [guestDevice, completed, ccw, knob, named, and_comm]
  · have other := mt (deviceName_mem_channelNames_iff virtio placement.transport).mp ccw
    have plain := not_mem_channelNames virtio
    by_cases completed : fields.driver = fields.base <;>
      simp [guestDevice, completed, ccw, other, plain]

theorem Device.bypassesKnob_iff {device : Device} (knob : placement.iommuPlatform = true)
    (architecture : Architecture)
    : device.BypassesKnob placement.transport architecture
      ↔ ∃ shown ∈ device.guestDevices placement architecture,
          ∃ name ∈ shown.name, name ∈ channelNames ∧ "on" ∉ shown.iommu := by
  constructor
  · rintro (⟨fields, numbered, bypasses⟩ | ⟨name, own, named⟩)
    · exact ⟨_, mem_guestDevices.mpr (Or.inl ⟨fields, numbered, rfl⟩), _, rfl,
        (ChannelFields.bypassesKnob_iff (base_mem_virtioBases numbered) knob).mp bypasses⟩
    · exact ⟨_, mem_guestDevices.mpr (Or.inr ⟨name, own, rfl⟩), name, rfl, named,
        List.not_mem_nil⟩
  · rintro ⟨shown, member, name, own, named, direct⟩
    rcases mem_guestDevices.mp member with ⟨fields, numbered, rfl⟩ | ⟨fixed, listed, rfl⟩
    · cases own
      exact Or.inl ⟨fields, numbered,
        (ChannelFields.bypassesKnob_iff (base_mem_virtioBases numbered) knob).mpr
          ⟨named, direct⟩⟩
    · cases own
      exact Or.inr ⟨name, listed, named⟩

/-- Without the knob no device goes through the platform IOMMU. -/
theorem Device.iommu_guestDevices_of_knob (device : Device) (knob : placement.iommuPlatform = false)
    (architecture : Architecture)
    : (device.guestDevices placement architecture).flatMap GuestDevice.iommu = [] := by
  apply List.flatMap_eq_nil_iff.mpr
  intro shown member
  rcases mem_guestDevices.mp member with ⟨fields, _, rfl⟩ | ⟨name, _, rfl⟩
  · simp [ChannelFields.guestDevice, knob]
  · rfl

end

theorem propertyValues_device_iommu (options : List LaunchOption)
    : propertyValues .device "iommu_platform" options
      = (readGuestDevices options).flatMap GuestDevice.iommu := by
  induction options with
  | nil => rfl
  | cons option rest ih =>
      cases option with
      | toggle switch => exact ih
      | setting flag params =>
          rw [propertyValues_setting, readGuestDevices_setting, ih, List.flatMap_append]
          cases flag <;> simp [GuestDevice.ofParams]

/-- An assembly passes the knob for the platform IOMMU on to all virtio devices on channel I/O but
those that bypass it.
-/
theorem renderedIommu_of_build {settings : BuildSettings} {config : Config}
    {invocation : Invocation} (built : (build settings config).outcome = .ok invocation)
    : RenderedIommu settings config invocation.options := by
  obtain ⟨_, run, rfl⟩ := build_ok_iff.mp built
  have shown := run.readGuestDevices_invocation
  constructor
  case devices => exact shown
  case elsewhere => exact fun flag other => run.iommuValues_options other
  case reaches =>
    constructor
    · intro reached knob device member bypasses
      have heeds : (settings.placementOf config device).iommuPlatform = true := knob
      obtain ⟨item, own, name, first, named, direct⟩ :=
        (Device.bypassesKnob_iff heeds settings.architecture).mp bypasses
      have listed : item ∈ readGuestDevices run.invocation.options := by
        rw [shown]
        exact List.mem_flatMap.mpr ⟨device, member, own⟩
      exact direct (reached.on knob item listed name first named)
    · intro heeded
      constructor
      case on =>
        intro knob item listed name first named
        rw [shown] at listed
        obtain ⟨device, member, own⟩ := List.mem_flatMap.mp listed
        by_contra direct
        exact heeded knob device member
          ((Device.bypassesKnob_iff knob settings.architecture).mpr
            ⟨item, own, name, first, named, direct⟩)
      case off =>
        intro knob flag
        by_cases device : flag = .device
        · subst device
          rw [propertyValues_device_iommu, shown, Config.guestDevices, List.flatMap_assoc]
          exact List.flatMap_eq_nil_iff.mpr fun device _ =>
            device.iommu_guestDevices_of_knob knob _
        · exact run.iommuValues_options device

/-- A guest on channel I/O with the knob and an entropy source. -/
def seededGuest : Config where
  knobs := { iommuPlatform := true }
  entropySources :=
    [{ id := "rng0", driver := "virtio-rng", filename := "/dev/urandom",
       deviceNumber := "fe.0.0002" }]

/-- The knob reaches the entropy source, and it is the only device. -/
theorem renderedIommu_seededGuest
    : ∃ invocation,
        (build { architecture := .s390x } seededGuest).outcome = .ok invocation
        ∧ KnobReaches true invocation.options
        ∧ readGuestDevices invocation.options
          = [{ name := "virtio-rng-ccw", numbers := ["fe.0.0002"], iommu := ["on"] }] := by
  have succeeds : (build { architecture := .s390x } seededGuest).outcome.toOption.isSome
      = true := by
    decide +kernel
  obtain ⟨invocation, built⟩ := BuildReport.exists_invocation succeeds
  have rendered := renderedIommu_of_build built
  refine ⟨invocation, built, rendered.reaches.mpr (by decide +kernel), ?_⟩
  rw [rendered.devices]
  decide +kernel

/-- A guest on channel I/O with the knob, a virtio disk and a balloon. -/
def balloonGuest : Config where
  knobs := { iommuPlatform := true }
  disks :=
    [{ id := "d0", driver := "virtio-blk", file := "a.img", interface := "none",
       format := "raw", deviceNumber := "fe.0.0001" }]
  balloons := [{ id := "balloon0", deviceNumber := "fe.0.0002" }]

/-- The guest is assembled, and the knob reaches neither the disk nor the balloon. -/
theorem not_knobReaches_balloonGuest
    : ∃ invocation,
        (build { architecture := .s390x } balloonGuest).outcome = .ok invocation
        ∧ readGuestDevices invocation.options
          = [{ name := "virtio-blk-ccw", numbers := ["fe.0.0001"] },
              { name := "virtio-balloon-ccw", numbers := ["fe.0.0002"] }]
        ∧ ¬KnobReaches true invocation.options := by
  have succeeds : (build { architecture := .s390x } balloonGuest).outcome.toOption.isSome
      = true := by
    decide +kernel
  obtain ⟨invocation, built⟩ := BuildReport.exists_invocation succeeds
  obtain ⟨_, run, rfl⟩ := build_ok_iff.mp built
  have shown : readGuestDevices run.invocation.options
      = [{ name := "virtio-blk-ccw", numbers := ["fe.0.0001"] },
          { name := "virtio-balloon-ccw", numbers := ["fe.0.0002"] }] := by
    rw [run.readGuestDevices_invocation]
    decide +kernel
  refine ⟨_, built, shown, ?_⟩
  intro reached
  have balloon := reached.on rfl { name := "virtio-balloon-ccw", numbers := ["fe.0.0002"] }
    (by simp [shown]) _ rfl (by decide)
  exact List.not_mem_nil balloon

end GuestLaunch
