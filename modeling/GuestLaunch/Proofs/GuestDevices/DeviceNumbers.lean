import GuestLaunch.Proofs.Firmware.Paths
import GuestLaunch.Proofs.GuestDevices.Readback

/-!
Device numbers on channel I/O. A transport is resolved for every driver of a kind, also for those
that are no virtio drivers: under channel I/O they are numbered like the others, although the
transport does not complete their names.
-/

namespace GuestLaunch

/-- A device is named as one on channel I/O. -/
def GuestDevice.onChannel (device : GuestDevice) : Bool :=
  device.name.any (Text.endsWith · "-ccw")

/-- Only devices on channel I/O are numbered. -/
def NumbersOnChannel (options : List LaunchOption) : Prop :=
  ∀ shown ∈ readGuestDevices options, shown.numbers ≠ [] → shown.onChannel = true

/-- How the options of a device number the devices of the guest. -/
structure RenderedNumbers (device : Device) (placement : Placement)
    (options : List LaunchOption) : Prop where
  /-- Under channel I/O, and nowhere else, there is a number, for the kinds that have a field
  for it.
  -/
  numbers
    : (readGuestDevices options).flatMap GuestDevice.numbers
      = if placement.transport = .ccw then
          (device.channelFields?.map ChannelFields.number).toList
        else
          []
  /-- Only devices on channel I/O are numbered, unless a device is numbered whose driver the
  transport does not complete and that is no driver of channel I/O by itself.
  -/
  onChannel
    : NumbersOnChannel options
      ↔ (placement.transport = .ccw →
          ∀ fields ∈ device.channelFields?,
            fields.driver = fields.base ∨ Text.endsWith fields.driver "-ccw" = true)

section
variable {placement : Placement}

/-- Under channel I/O a device is named as one there if the transport completes its driver, or if
the driver is so named.
-/
theorem ChannelFields.onChannel_guestDevice_iff (ccw : placement.transport = .ccw)
    (fields : ChannelFields)
    : (fields.guestDevice placement).onChannel = true
      ↔ fields.driver = fields.base ∨ Text.endsWith fields.driver "-ccw" = true := by
  show Text.endsWith (placement.deviceName fields.base fields.driver) "-ccw" = true ↔ _
  unfold Placement.deviceName
  split
  next completed =>
    have ending : Text.endsWith (fields.driver ++ "-ccw") "-ccw" = true := by
      rw [Text.endsWith_append (Nat.le_refl _)]
      decide
    rw [Transport.deviceName_eq, ccw]
    exact iff_of_true ending (Or.inl completed)
  next other => rw [or_iff_right other]

/-- The numbers of a device are those of its fields: a name that is fixed has none beside it. -/
theorem Device.numbers_guestDevices (device : Device) (architecture : Architecture)
    : (device.guestDevices placement architecture).flatMap GuestDevice.numbers
      = if placement.transport = .ccw then
          (device.channelFields?.map ChannelFields.number).toList
        else
          [] := by
  have fixed : ((device.fixedNames architecture).map fun name => { name := name }).flatMap
      GuestDevice.numbers = [] := by
    simp [List.flatMap_map]
  rw [guestDevices, List.flatMap_append, fixed, List.append_nil]
  cases device.channelFields? with
  | none => exact (ite_self []).symm
  | some fields => exact List.append_nil _

end

/-- A device numbers what it has in the guest by its kind and its transport alone, in any state of
the run.
-/
theorem Device.renderedNumbers_of_render {device : Device} {placement : Placement}
    {architecture : Architecture} {state after : RunState} {options : List LaunchOption}
    (rendered : (device.render placement architecture).run state = (.ok options, after))
    : RenderedNumbers device placement options := by
  have shown := readGuestDevices_of_render rendered
  constructor
  case numbers => rw [shown, device.numbers_guestDevices]
  case onChannel =>
    rw [NumbersOnChannel, shown]
    constructor
    · intro only ccw fields own
      apply (fields.onChannel_guestDevice_iff ccw).mp
      exact only _ (mem_guestDevices.mpr (Or.inl ⟨fields, own, rfl⟩))
        (by simp [ChannelFields.guestDevice, ccw])
    · intro named item member present
      rcases mem_guestDevices.mp member with ⟨fields, own, rfl⟩ | ⟨name, _, rfl⟩
      · have ccw : placement.transport = .ccw := by
          by_contra other
          exact present (if_neg other)
        exact (fields.onChannel_guestDevice_iff ccw).mpr (named ccw fields own)
      · exact absurd rfl present

/-- An entropy source with a driver of channel I/O is numbered there, under the name of that
driver.
-/
theorem renderedNumbers_channelSource
    : let source : EntropySource :=
        { id := "rng0", driver := "virtio-rng-ccw", filename := "/dev/urandom",
          deviceNumber := "fe.0.0002" }
      let placement : Placement := { transport := .ccw }
      let options := (Device.entropy source).optionsFor placement .s390x []
      (((Device.entropy source).render placement .s390x).run (.initial .strict)).1.toOption
          = some options
        ∧ RenderedNumbers (.entropy source) placement options
        ∧ NumbersOnChannel options
        ∧ propertyValues .device "devno" options = ["fe.0.0002"] := by
  intro source placement options
  have rendered : (((Device.entropy source).render placement .s390x).run
        (.initial .strict)).1.toOption
      = some options := by
    decide +kernel
  have numbers : RenderedNumbers (.entropy source) placement options :=
    Device.renderedNumbers_of_render (Render.run_of_toOption rendered)
  refine ⟨rendered, numbers, numbers.onChannel.mpr ?_, by decide +kernel⟩
  rintro - fields own
  cases own
  exact Or.inr (by decide +kernel)

/-- A disk behind a SCSI controller, without a transport of its own. -/
def scsiDisk : Disk where
  id := "d0"
  driver := "scsi-hd"
  file := "a.img"
  interface := "none"
  format := "raw"

/-- On an architecture with channel I/O the disk is valid and has an empty device number, and no
name of channel I/O.
-/
theorem not_numbersOnChannel_scsiDisk
    : let placement : Placement :=
        { transport := Host.resolveTransport { architecture := .s390x } scsiDisk.transport }
      let options := (Device.disk scsiDisk).optionsFor placement .s390x []
      (Device.disk scsiDisk).problem? = none
        ∧ (((Device.disk scsiDisk).render placement .s390x).run (.initial .strict)).1.toOption
          = some options
        ∧ readGuestDevices options = [{ name := "scsi-hd", numbers := [""] }]
        ∧ ¬NumbersOnChannel options := by
  intro placement options
  have shown : readGuestDevices options = [{ name := "scsi-hd", numbers := [""] }] := by
    decide +kernel
  refine ⟨by decide +kernel, by decide +kernel, shown, ?_⟩
  intro only
  have named := only { name := "scsi-hd", numbers := [""] } (by simp [shown]) (by simp)
  exact absurd named (by decide)

end GuestLaunch
