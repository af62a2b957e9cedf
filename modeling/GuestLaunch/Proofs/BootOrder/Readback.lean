import GuestLaunch.Proofs.Options.Properties
import GuestLaunch.Proofs.Resources.AssemblyRun

/-!
Reading boot indices back from options. Disks and network devices render a boot index if they
have a device in the guest; no other device and no setting renders any.
-/

namespace GuestLaunch

/-- The boot indices in the device options among the given ones. -/
def readBootIndices (options : List LaunchOption) : List String :=
  propertyValues .device "bootindex" options

namespace Device

/-- Whether a device has a place in the boot order: a disk that is not a drive only, and a
network device with a card.
-/
def isBootable : Device → Bool
  | disk device => !device.driveOnly
  | net device => !device.isSkipped && !device.driver.isEmpty
  | _ => false

/-- The configured boot index of a device that has a place in the boot order. -/
def shownBootIndex? (device : Device) : Option String :=
  if device.isBootable then device.bootIndex? else none

end Device

-----------------------------------------------------------------------------------------
-- Devices
-----------------------------------------------------------------------------------------

theorem Disk.readBootIndices_optionsFor (disk : Disk) (placement : Placement)
    (grants : List Grant)
    : readBootIndices (disk.optionsFor placement grants)
      = if disk.driveOnly then [] else (bootIndexFor disk.bootIndex grants).toList := by
  simp [readBootIndices, optionsFor, deviceParams, controllerParams, geometryParams,
    featureParams]

/-- The boot index of a network device is that of its card. -/
theorem NetDevice.readBootIndices_optionsFor (device : NetDevice) (placement : Placement)
    (grants : List Grant)
    : readBootIndices (device.optionsFor placement grants)
      = if !device.isSkipped && !device.driver.isEmpty then
          (bootIndexFor device.bootIndex grants).toList
        else
          [] := by
  have backend : propertyValues .device "bootindex" (device.backendOptionsFor grants) = [] := by
    unfold backendOptionsFor
    split <;> simp
  cases skipped : device.isSkipped <;> cases bare : device.driver.isEmpty <;>
    simp [readBootIndices, optionsFor, cardOptionsFor, cardParams, queueParams, skipped, bare,
      backend]

theorem PciController.readBootIndices_optionsFor (controller : PciController)
    {busParams : List Param} (plain : valuesUnder "bootindex" busParams = [])
    (grants : List Grant)
    : readBootIndices (controller.optionsFor busParams grants) = [] := by
  unfold optionsFor
  cases slotIn? grants with
  | none => rfl
  | some slot => simp [readBootIndices, params, slotParam, plain]

/-- A device renders the boot index that it shows, and no other device option of it has one, by
the kind of the device.
-/
theorem Device.readBootIndices_optionsFor (device : Device) (placement : Placement)
    (architecture : Architecture) (grants : List Grant)
    : readBootIndices (device.optionsFor placement architecture grants)
      = (bootIndexFor device.shownBootIndex? grants).toList := by
  cases device with
  | disk device =>
      refine (device.readBootIndices_optionsFor placement grants).trans ?_
      cases alone : device.driveOnly <;>
        simp [shownBootIndex?, isBootable, bootIndex?, bootIndexFor, alone]
  | net device =>
      refine (device.readBootIndices_optionsFor placement grants).trans ?_
      cases rendered : !device.isSkipped && !device.driver.isEmpty <;>
        simp only [shownBootIndex?, isBootable, bootIndex?, bootIndexFor, rendered] <;> rfl
  | rootPort device =>
      simp [readBootIndices, optionsFor, RootPort.optionsFor, RootPort.params,
        RootPort.multifunctionParams, RootPort.reserveParams]
      rfl
  | bridge device =>
      have identity : valuesUnder "bootindex" device.identityParams = [] := by
        unfold Bridge.identityParams
        cases device.type <;> simp
      simp [readBootIndices, optionsFor, Bridge.optionsFor, Bridge.params, identity]
      rfl
  | scsi device =>
      simp [readBootIndices, optionsFor, ScsiController.optionsFor, ScsiController.params,
        ScsiController.threadOptions]
      rfl
  | ide device =>
      exact device.readBootIndices_optionsFor (by simp [PciController.busParams]) grants
  | usb device => exact device.readBootIndices_optionsFor rfl grants
  | char device =>
      simp [readBootIndices, optionsFor, CharDevice.launchOptions, CharDevice.guestOptions,
        CharDevice.deviceParams, CharDevice.virtioParams, LaunchOption.value]
      rfl
  | entropy device =>
      simp [readBootIndices, optionsFor, EntropySource.optionsFor, EntropySource.deviceParams,
        EntropySource.limitParam]
      rfl
  | balloon device =>
      simp [readBootIndices, optionsFor, Balloon.launchOptions, Balloon.params]
      rfl
  | virtioSerial device =>
      simp [readBootIndices, optionsFor, VirtioSerial.launchOptions, VirtioSerial.params,
        VirtioSerial.portParams]
      rfl
  | legacySerial | monitor | flash | spice | tpm => rfl

-----------------------------------------------------------------------------------------
-- Settings
-----------------------------------------------------------------------------------------

/-- No setting renders a boot index. The two stages that have device options are looked at by
themselves.
-/
theorem Stage.readBootIndices_settings (stage : Stage) (config : Config) (host : Host)
    : readBootIndices (stage.settings config host) = [] := by
  cases stage with
  | display =>
      show readBootIndices ((config.spice.map Spice.launchOptions).getD []) = []
      cases config.spice <;> rfl
  | tpm =>
      show readBootIndices
        ((config.tpm.map fun tpm => tpm.launchOptions host.architecture).getD []) = []
      cases config.tpm <;> rfl
  | _ => exact (Stage.usesOnly_settings _ config host).propertyValues_eq_nil (by decide)

theorem Migration.readBootIndices_optionsFor (source : Migration) (grants : List Grant)
    : readBootIndices (source.optionsFor grants) = [] := by
  unfold optionsFor
  cases source.uriFor? grants <;> rfl

/-- All boot indices of a command line are those of the devices. -/
theorem GrantedRun.readBootIndices_invocation {settings : BuildSettings} {config : Config}
    (run : GrantedRun settings config)
    : readBootIndices run.invocation.options
      = readBootIndices (run.groups .devices).flatten := by
  have plain (stages : List Stage)
      : readBootIndices
          (stages.flatMap (Stage.settings config (settings.host config))) = [] := by
    rw [readBootIndices, propertyValues_flatMap]
    exact List.flatMap_eq_nil_iff.mpr fun stage _ =>
      stage.readBootIndices_settings config (settings.host config)
  have migration := config.incoming.readBootIndices_optionsFor run.incoming
  unfold readBootIndices at plain migration ⊢
  simp only [run.options_eq, propertyValues_append, plain, migration, List.nil_append,
    List.append_nil]

end GuestLaunch
