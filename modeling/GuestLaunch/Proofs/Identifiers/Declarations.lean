import GuestLaunch.Proofs.Options.Properties
import GuestLaunch.Proofs.Resources.AssemblyRun
import Mathlib.Data.List.Basic

/-!
Identifiers that options declare. Every device and every stage of settings declares at most the
identifiers that its configuration names, each with a flag of its own.
-/

namespace GuestLaunch

/-- The flags whose options declare identifiers, each with a namespace of its own. -/
def identifierFlags : List Flag := [.device, .object, .chardev, .drive, .netdev]

/-- The identifiers that the options of a flag declare. An empty one declares nothing. -/
def declaredIds (flag : Flag) (options : List LaunchOption) : List String :=
  (propertyValues flag "id" options).filter fun id => !id.isEmpty

/-- An identifier with the flag that declares it. -/
abbrev Declaration := Flag × String

/-- The identifiers that declarations give to a flag. -/
def idsUnder (flag : Flag) (declarations : List Declaration) : List String :=
  (declarations.filter fun declaration => declaration.1 = flag).map Prod.snd

@[simp] theorem idsUnder_nil (flag : Flag) : idsUnder flag [] = [] := rfl

@[simp] theorem idsUnder_cons (flag own : Flag) (id : String) (rest : List Declaration)
    : idsUnder flag ((own, id) :: rest)
      = (if own = flag then [id] else []) ++ idsUnder flag rest := by
  by_cases same : own = flag <;> simp [idsUnder, same]

theorem idsUnder_append (flag : Flag) (first second : List Declaration)
    : idsUnder flag (first ++ second) = idsUnder flag first ++ idsUnder flag second := by
  simp [idsUnder]

-----------------------------------------------------------------------------------------
-- Devices
-----------------------------------------------------------------------------------------

/-- What a device may declare. -/
def Device.declarations : Device → List Declaration
  | rootPort device => [(.device, device.id)]
  | bridge device => [(.device, device.id)]
  | scsi device => [(.device, device.id), (.object, device.ioThread)]
  | ide device => [(.device, device.id)]
  | usb device => [(.device, device.id)]
  | disk device => [(.drive, device.id)]
  | char device => [(.device, device.deviceId), (.chardev, device.id)]
  | legacySerial _ | monitor _ | flash _ => []
  | net device => [(.netdev, device.id)]
  | entropy device => [(.object, device.id)]
  | balloon device => [(.device, device.id)]
  | virtioSerial device => [(.device, device.id)]
  | spice _ => [(.chardev, Spice.channelId)]
  | tpm device => [(.chardev, device.socketId), (.tpmdev, device.id)]

theorem Spice.ids_launchOptions (spice : Spice) (flag : Flag)
    : (propertyValues flag "id" spice.launchOptions).Sublist
        (idsUnder flag [(.chardev, channelId)]) := by
  simp [launchOptions, serverParams]

theorem Tpm.ids_launchOptions (tpm : Tpm) (architecture : Architecture) (flag : Flag)
    : (propertyValues flag "id" (tpm.launchOptions architecture)).Sublist
        (idsUnder flag [(.chardev, tpm.socketId), (.tpmdev, tpm.id)]) := by
  simp [launchOptions]

theorem PciController.ids_optionsFor (controller : PciController) {busParams : List Param}
    (plain : valuesUnder "id" busParams = []) (grants : List Grant) (flag : Flag)
    : (propertyValues flag "id" (controller.optionsFor busParams grants)).Sublist
        (idsUnder flag [(.device, controller.id)]) := by
  unfold optionsFor
  cases slotIn? grants with
  | none => exact List.nil_sublist _
  | some slot => simp [params, slotParam, plain]

/-- A character device declares its endpoint, and a device in the guest unless it is an old serial
port.
-/
theorem CharDevice.ids_launchOptions (device : CharDevice) (placement : Placement) (flag : Flag)
    : (propertyValues flag "id" (device.launchOptions placement)).Sublist
        (idsUnder flag [(.device, device.deviceId), (.chardev, device.id)]) := by
  have endpoint : valuesUnder "id" device.endpointParams = [device.id] := by
    simp [endpointParams]
  have guest : (propertyValues flag "id" (device.guestOptions placement)).Sublist
      (idsUnder flag [(.device, device.deviceId)]) := by
    unfold guestOptions
    split
    · exact List.nil_sublist _
    · split
      · simp [LaunchOption.value]
      · simp [deviceParams, virtioParams]
  rw [launchOptions, propertyValues_append]
  exact idsUnder_append flag [(.device, device.deviceId)] [(.chardev, device.id)]
    ▸ guest.append (by simp [endpoint])

theorem NetDevice.ids_optionsFor (device : NetDevice) (placement : Placement)
    (grants : List Grant) (flag : Flag)
    : (propertyValues flag "id" (device.optionsFor placement grants)).Sublist
        (idsUnder flag [(.netdev, device.id)]) := by
  have named : valuesUnder "id" device.namedParams = [] :=
    device.valuesUnder_namedParams (by decide)
  have backend : (propertyValues flag "id" (device.backendOptionsFor grants)).Sublist
      (idsUnder flag [(.netdev, device.id)]) := by
    unfold backendOptionsFor
    split
    · exact List.nil_sublist _
    · simp [backendParamsFor, named, vhostKey, queueKey]
  have card : propertyValues flag "id" (device.cardOptionsFor placement grants) = [] := by
    simp [cardOptionsFor, cardParams, queueParams]
  unfold optionsFor
  split
  · exact List.nil_sublist _
  · rw [propertyValues_append, card, List.append_nil]
    exact backend

/-- The options of a device declare no more than the device may, by its kind. -/
theorem Device.ids_optionsFor (device : Device) (placement : Placement)
    (architecture : Architecture) (grants : List Grant) (flag : Flag)
    : (propertyValues flag "id" (device.optionsFor placement architecture grants)).Sublist
        (idsUnder flag device.declarations) := by
  cases device with
  | rootPort device =>
      simp [optionsFor, declarations, RootPort.optionsFor, RootPort.params,
        RootPort.multifunctionParams, RootPort.reserveParams]
  | bridge device =>
      have identity : valuesUnder "id" device.identityParams = [device.id] := by
        unfold Bridge.identityParams
        cases device.type <;> simp
      simp [optionsFor, declarations, Bridge.optionsFor, Bridge.params, identity]
  | scsi device =>
      cases none : device.ioThread.isEmpty <;>
        simp [optionsFor, declarations, ScsiController.optionsFor, ScsiController.params,
          ScsiController.threadOptions, none]
  | ide device => exact device.ids_optionsFor (by simp [PciController.busParams]) grants flag
  | usb device => exact device.ids_optionsFor rfl grants flag
  | disk device =>
      simp [optionsFor, declarations, Disk.optionsFor, Disk.driveParams, Disk.deviceParams,
        Disk.controllerParams, Disk.geometryParams, Disk.featureParams]
  | char device => exact device.ids_launchOptions placement flag
  | net device => exact device.ids_optionsFor placement grants flag
  | entropy device =>
      simp [optionsFor, declarations, EntropySource.optionsFor, EntropySource.objectParams,
        EntropySource.deviceParams, EntropySource.limitParam]
  | balloon device => simp [optionsFor, declarations, Balloon.launchOptions, Balloon.params]
  | virtioSerial device =>
      simp [optionsFor, declarations, VirtioSerial.launchOptions, VirtioSerial.params,
        VirtioSerial.portParams]
  | legacySerial device => simp [optionsFor, declarations, LegacySerial.launchOptions]
  | monitor device => simp [optionsFor, declarations, Monitor.launchOptions]
  | flash device => simp [optionsFor, declarations, FlashPair.launchOptions]
  | spice device => exact device.ids_launchOptions flag
  | tpm device => exact device.ids_launchOptions architecture flag

-----------------------------------------------------------------------------------------
-- Settings
-----------------------------------------------------------------------------------------

/-- What a stage of settings may declare. -/
def Stage.declarations (config : Config) : Stage → List Declaration
  | display => config.spice.toList.flatMap fun spice => (Device.spice spice).declarations
  | tpm => config.tpm.toList.flatMap fun tpm => (Device.tpm tpm).declarations
  | knobs => [(.object, Memory.backendId)]
  | ioThreads => config.ioThreads.map fun thread => (.object, thread.id)
  | _ => []

theorem Memory.ids_backendOptions (memory : Memory) (knobs : Knobs) (asNode : Bool)
    (flag : Flag)
    : (propertyValues flag "id" (memory.backendOptions knobs asNode)).Sublist
        (idsUnder flag [(.object, backendId)]) := by
  have file : valuesUnder "id" (memory.backing knobs).2 = [] := by
    unfold backing
    split
    · simp
    · split <;> simp
  unfold backendOptions
  split
  · exact List.nil_sublist _
  · cases asNode <;> simp [file]

/-- The options of threads declare their identifiers, by induction on the threads. -/
theorem IoThread.ids_launchOptions (threads : List IoThread) (flag : Flag)
    : (propertyValues flag "id" (threads.flatMap launchOptions)).Sublist
        (idsUnder flag (threads.map fun thread => (.object, thread.id))) := by
  induction threads with
  | nil => exact List.Sublist.refl []
  | cons thread rest ih =>
      rw [List.flatMap_cons, propertyValues_append, List.map_cons, idsUnder_cons]
      refine List.Sublist.append ?_ ih
      unfold launchOptions
      split
      · exact List.nil_sublist _
      · simp

/-- The settings of a stage declare no more than the stage may. A stage that uses none of the
identifying flags declares nothing.
-/
theorem Stage.ids_settings (stage : Stage) (config : Config) (host : Host) {flag : Flag}
    (identifying : flag ∈ identifierFlags)
    : (propertyValues flag "id" (stage.settings config host)).Sublist
        (idsUnder flag (stage.declarations config)) := by
  cases stage with
  | display =>
      show (propertyValues flag "id"
        ((config.spice.map Spice.launchOptions).getD [])).Sublist _
      unfold declarations
      cases config.spice with
      | none => exact List.nil_sublist _
      | some spice => exact spice.ids_launchOptions flag
  | tpm =>
      show (propertyValues flag "id"
        ((config.tpm.map fun tpm => tpm.launchOptions host.architecture).getD [])).Sublist _
      unfold declarations
      cases config.tpm with
      | none => exact List.nil_sublist _
      | some tpm => exact tpm.ids_launchOptions host.architecture flag
  | knobs =>
      have others : propertyValues flag "id" config.knobs.launchOptions = [] := by
        refine config.knobs.usesOnly_launchOptions.propertyValues_eq_nil ?_
        revert flag
        decide
      show (propertyValues flag "id" (config.memory.backendOptions config.knobs
        host.hasMemoryNodes ++ config.knobs.launchOptions)).Sublist _
      rw [propertyValues_append, others, List.append_nil]
      exact config.memory.ids_backendOptions _ _ flag
  | ioThreads => exact IoThread.ids_launchOptions config.ioThreads flag
  | _ =>
      rw [(Stage.usesOnly_settings _ config host).propertyValues_eq_nil]
      · exact List.nil_sublist _
      · revert flag
        decide

end GuestLaunch
