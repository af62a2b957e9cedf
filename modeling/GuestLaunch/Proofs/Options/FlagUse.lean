import GuestLaunch.Proofs.Resources.PlanRequests
import GuestLaunch.Assembly.StageOptions

/-!
Which flags appear where on the command line. Each stage and each kind of device uses a few flags
of its own, whatever the configuration says.
-/

namespace GuestLaunch

/-- The flag of an option that has a value. -/
def LaunchOption.flag? : LaunchOption → Option Flag
  | toggle _ => none
  | setting flag _ => some flag

/-- Options with no other flags than the given ones. -/
def UsesOnly (flags : List Flag) (options : List LaunchOption) : Prop :=
  ∀ option ∈ options, ∀ flag ∈ option.flag?, flag ∈ flags

section
variable {flags : List Flag} {flag : Flag} {options : List LaunchOption}

theorem usesOnly_nil : UsesOnly flags [] := by
  intro option member
  cases member

theorem usesOnly_cons (own : flag ∈ flags) {params : List Param}
    (tail : UsesOnly flags options)
    : UsesOnly flags (.setting flag params :: options) := by
  intro option member
  rcases List.mem_cons.mp member with rfl | behind
  · intro used same
    obtain rfl := Option.some.inj same
    exact own
  · exact tail option behind

theorem usesOnly_setting (own : flag ∈ flags) {params : List Param}
    : UsesOnly flags [.setting flag params] :=
  usesOnly_cons own usesOnly_nil

theorem UsesOnly.append {more : List LaunchOption} (h : UsesOnly flags options)
    (next : UsesOnly flags more)
    : UsesOnly flags (options ++ more) := by
  intro option member
  rcases List.mem_append.mp member with before | after
  · exact h option before
  · exact next option after

theorem usesOnly_flatMap {α : Type} {items : List α} {render : α → List LaunchOption}
    (each : ∀ item ∈ items, UsesOnly flags (render item))
    : UsesOnly flags (items.flatMap render) := by
  intro option member
  obtain ⟨item, listed, own⟩ := List.mem_flatMap.mp member
  exact each item listed option own

theorem usesOnly_ite {condition : Prop} [Decidable condition] {other : List LaunchOption}
    (h : UsesOnly flags options) (otherwise : UsesOnly flags other)
    : UsesOnly flags (if condition then options else other) := by
  split
  · exact h
  · exact otherwise

theorem usesOnly_getD {α : Type} {item : Option α} {render : α → List LaunchOption}
    (each : ∀ own, UsesOnly flags (render own))
    : UsesOnly flags ((item.map render).getD []) := by
  cases item with
  | none => exact usesOnly_nil
  | some own => exact each own

theorem usesOnly_unlessEmpty (own : flag ∈ flags) {text : String}
    : UsesOnly flags (LaunchOption.unlessEmpty flag text) :=
  usesOnly_ite usesOnly_nil (usesOnly_setting own)

end

-----------------------------------------------------------------------------------------
-- Stages
-----------------------------------------------------------------------------------------

/-- The flags of a stage that uses up nothing. -/
def Stage.flags : Stage → List Flag
  | identity => [.name, .uuid]
  | machine => [.machine]
  | cpu => [.cpu]
  | display => [.spice, .device, .chardev]
  | tpm => [.chardev, .tpmdev, .device]
  | smbios => [.smbios]
  | control => [.qmp]
  | memory => [.memory]
  | devices => []
  | clock => [.rtc]
  | globals => [.global]
  | flashImages => [.pflash]
  | vga => [.vga]
  | knobs => [.object, .numa, .machine, .overcommit]
  | kernel => [.kernel, .initrd, .append]
  | bios => [.bios]
  | ioThreads => [.object]
  | incoming => []
  | files => [.pidFile, .logFile]
  | firmwareBlobs => [.fwCfg]
  | sandbox => [.sandbox]
  | processors => [.smp]

theorem Smbios.usesOnly_tableOptions (type : Nat) (fields : List (String × String))
    : UsesOnly [.smbios] (tableOptions type fields) := by
  unfold tableOptions
  split
  · exact usesOnly_nil
  · exact usesOnly_setting (by decide)

theorem Smbios.usesOnly_launchOptions (smbios : Smbios)
    : UsesOnly [.smbios] smbios.launchOptions := by
  have file : UsesOnly [.smbios] smbios.fileOptions :=
    usesOnly_ite usesOnly_nil (usesOnly_setting (by decide))
  have processors : UsesOnly [.smbios] (smbios.processors.flatMap Processor.launchOptions) :=
    usesOnly_flatMap fun _ _ => usesOnly_tableOptions _ _
  have memory : UsesOnly [.smbios] (smbios.memory.flatMap MemoryDevice.launchOptions) :=
    usesOnly_flatMap fun _ _ => usesOnly_tableOptions _ _
  exact (((((file.append (usesOnly_tableOptions _ _)).append (usesOnly_tableOptions _ _)).append
    (usesOnly_tableOptions _ _)).append (usesOnly_tableOptions _ _)).append processors).append
    memory

theorem Knobs.usesOnly_launchOptions (knobs : Knobs)
    : UsesOnly [.overcommit] knobs.launchOptions := by
  have choices : ∀ choice ∈ knobs.choices, ∀ flag ∈ choice.2.flag?, flag ∈ [Flag.overcommit] := by
    simp [Knobs.choices, LaunchOption.flag?]
  intro option member
  obtain ⟨choice, chosen, rfl⟩ := List.mem_map.mp member
  exact choices choice (List.mem_filter.mp chosen).1

theorem Memory.usesOnly_backendOptions (memory : Memory) (knobs : Knobs) (asNode : Bool)
    : UsesOnly [.object, .numa, .machine] (memory.backendOptions knobs asNode) := by
  refine usesOnly_ite usesOnly_nil (usesOnly_cons (by decide) ?_)
  cases asNode
  · exact usesOnly_setting (by decide)
  · exact usesOnly_setting (by decide)

theorem UsesOnly.mono {flags more : List Flag} {options : List LaunchOption}
    (h : UsesOnly flags options) (wider : flags ⊆ more)
    : UsesOnly more options :=
  fun option member flag own => wider (h option member flag own)

/-- A stage uses its own flags only, by the stage. -/
theorem Stage.usesOnly_settings (stage : Stage) (config : Config) (host : Host)
    : UsesOnly stage.flags (stage.settings config host) := by
  cases stage with
  | identity =>
      exact (usesOnly_unlessEmpty (by decide)).append (usesOnly_unlessEmpty (by decide))
  | machine => exact usesOnly_ite usesOnly_nil (usesOnly_setting (by decide))
  | cpu => exact usesOnly_ite usesOnly_nil (usesOnly_setting (by decide))
  | display =>
      exact usesOnly_getD fun _ =>
        usesOnly_cons (by decide) (usesOnly_cons (by decide) (usesOnly_cons (by decide)
          (usesOnly_setting (by decide))))
  | tpm =>
      exact usesOnly_getD fun _ =>
        usesOnly_cons (by decide) (usesOnly_cons (by decide) (usesOnly_setting (by decide)))
  | smbios => exact config.smbios.usesOnly_launchOptions
  | control => exact usesOnly_flatMap fun _ _ => usesOnly_setting (by decide)
  | memory => exact usesOnly_ite usesOnly_nil (usesOnly_setting (by decide))
  | devices => exact usesOnly_nil
  | clock =>
      show UsesOnly [.rtc] config.clockOptions
      unfold Config.clockOptions
      cases config.clock with
      | none => exact usesOnly_nil
      | some clock => exact usesOnly_ite (usesOnly_setting (by decide)) usesOnly_nil
  | globals => exact usesOnly_flatMap fun _ _ => usesOnly_unlessEmpty (by decide)
  | flashImages => exact usesOnly_flatMap fun _ _ => usesOnly_unlessEmpty (by decide)
  | vga => exact usesOnly_unlessEmpty (by decide)
  | knobs =>
      have backend := config.memory.usesOnly_backendOptions config.knobs host.hasMemoryNodes
      exact (backend.mono (by decide)).append
        (config.knobs.usesOnly_launchOptions.mono (by decide))
  | kernel =>
      exact usesOnly_ite usesOnly_nil
        (((usesOnly_setting (by decide)).append (usesOnly_unlessEmpty (by decide))).append
          (usesOnly_unlessEmpty (by decide)))
  | bios => exact usesOnly_unlessEmpty (by decide)
  | ioThreads =>
      exact usesOnly_flatMap fun _ _ => usesOnly_ite usesOnly_nil (usesOnly_setting (by decide))
  | incoming => exact usesOnly_nil
  | files =>
      exact (usesOnly_unlessEmpty (by decide)).append (usesOnly_unlessEmpty (by decide))
  | firmwareBlobs =>
      refine usesOnly_flatMap fun blob _ => ?_
      unfold FirmwareBlob.validOptions
      cases blob.problem? with
      | some problem => exact usesOnly_nil
      | none => exact usesOnly_setting (by decide)
  | sandbox => exact usesOnly_unlessEmpty (by decide)
  | processors => exact usesOnly_ite usesOnly_nil (usesOnly_setting (by decide))

-----------------------------------------------------------------------------------------
-- Devices
-----------------------------------------------------------------------------------------

/-- The card of a network device has a device option at most. -/
theorem NetDevice.usesOnly_cardOptionsFor (device : NetDevice) (placement : Placement)
    (grants : List Grant)
    : UsesOnly [.device] (device.cardOptionsFor placement grants) :=
  usesOnly_ite usesOnly_nil (usesOnly_setting (by decide))

/-- The flags of a kind of device. -/
def Device.flags : Device → List Flag
  | rootPort _ | bridge _ | ide _ | usb _ | balloon _ | virtioSerial _ => [.device]
  | scsi _ | entropy _ => [.device, .object]
  | disk _ => [.drive, .device]
  | char _ => [.serial, .device, .chardev]
  | legacySerial _ => [.serial]
  | monitor _ => [.monitor]
  | net _ => [.netdev, .device]
  | flash _ => [.drive]
  | spice _ => [.spice, .device, .chardev]
  | tpm _ => [.chardev, .tpmdev, .device]

/-- A device uses the flags of its kind only, by the kind of the device. -/
theorem Device.usesOnly_optionsFor (device : Device) (placement : Placement)
    (architecture : Architecture) (grants : List Grant)
    : UsesOnly device.flags (device.optionsFor placement architecture grants) := by
  cases device with
  | rootPort | bridge | balloon | virtioSerial | legacySerial | monitor =>
      exact usesOnly_setting (by simp [flags])
  | scsi device =>
      exact usesOnly_cons (by simp [flags])
        (usesOnly_ite usesOnly_nil (usesOnly_setting (by simp [flags])))
  | ide device | usb device =>
      intro option member
      obtain ⟨slot, _, rfl⟩ := List.mem_map.mp member
      intro flag own
      obtain rfl := Option.some.inj own
      exact List.mem_singleton_self _
  | disk device =>
      exact usesOnly_cons (by simp [flags])
        (usesOnly_ite usesOnly_nil (usesOnly_setting (by simp [flags])))
  | char device =>
      exact UsesOnly.append
        (usesOnly_ite usesOnly_nil (usesOnly_ite (usesOnly_setting (by simp [flags]))
          (usesOnly_setting (by simp [flags]))))
        (usesOnly_setting (by simp [flags]))
  | net device =>
      have card := device.usesOnly_cardOptionsFor placement grants
      refine usesOnly_ite usesOnly_nil (UsesOnly.append ?_ (card.mono (by simp [flags])))
      unfold NetDevice.backendOptionsFor
      split
      · exact usesOnly_nil
      · exact usesOnly_setting (by simp [flags])
  | entropy device => exact usesOnly_cons (by simp [flags]) (usesOnly_setting (by simp [flags]))
  | flash device => exact usesOnly_cons (by simp [flags]) (usesOnly_setting (by simp [flags]))
  | spice device =>
      exact usesOnly_cons (by simp [flags]) (usesOnly_cons (by simp [flags])
        (usesOnly_cons (by simp [flags]) (usesOnly_setting (by simp [flags]))))
  | tpm device =>
      exact usesOnly_cons (by simp [flags]) (usesOnly_cons (by simp [flags])
        (usesOnly_setting (by simp [flags])))

end GuestLaunch
