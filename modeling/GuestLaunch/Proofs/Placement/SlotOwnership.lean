import GuestLaunch.Proofs.Placement.RenderTrace
import GuestLaunch.Proofs.Placement.RenderedSlots

/-!
Ownership of the slots of the root bus. In an assembly that succeeds, every device that is
placed has a slot of its own, which no root port or bridge claims, and which is rendered with
the device.
-/

namespace GuestLaunch

/-- A step owns a slot: the bus has allocated it for the address of the device, it lies behind
the first slot, and behind the reserved ones where the address names no slot that may be asked
for, and the options of the step render it.
-/
structure RenderStep.Owns (step : RenderStep) (address : String) (slot : Nat) : Prop where
  allocated : step.before.bus.allocate address = .ok (slot, step.after.bus)
  recorded : step.slot? = some slot
  range : 1 ≤ slot ∧ slot ≤ 30
  automatic
    : (∀ asked, BusAddress.slot? address = some asked → ¬(1 ≤ asked ∧ asked ≤ 30))
      → 4 ≤ slot
  rendered : RendersSlot step.options slot

/-- How an assembly that gives an invocation has given out the slots of the root bus. -/
structure SlotsOwned (settings : BuildSettings) (config : Config) (invocation : Invocation)
    : Prop where
  /-- The steps go through the plan of the configuration. -/
  planned
    : (deviceSteps settings config).map RenderStep.planned
      = config.plan (settings.host config)
  /-- The options of the steps stand in the command line, one after the other. -/
  options
    : ∃ before after,
        invocation.options
          = before ++ (deviceSteps settings config).flatMap RenderStep.options ++ after
  /-- So do their arguments. -/
  arguments
    : ∃ before after,
        invocation.arguments
          = before
            ++ (deviceSteps settings config).flatMap (fun step => argumentsOf step.options)
            ++ after
  distinct : ((deviceSteps settings config).filterMap RenderStep.slot?).Nodup
  unclaimed
    : ∀ slot ∈ (deviceSteps settings config).filterMap RenderStep.slot?,
        slot ∉ config.rootSlots
  owned
    : ∀ step ∈ deviceSteps settings config, ∀ address,
        step.planned.device.slotAddress? step.planned.transport = some address
        → ∃ slot, step.Owns address slot
  /-- At the end the occupied slots are the claimed and the allocated ones. -/
  occupied
    : ∃ final,
        (renderAll settings config).outcome = .ok final
        ∧ ∀ slot,
            slot ∈ final.bus.usedSlots
              ↔ slot ∈ config.rootSlots
                ∨ slot ∈ (deviceSteps settings config).filterMap RenderStep.slot?

-----------------------------------------------------------------------------------------
-- Steps and runs
-----------------------------------------------------------------------------------------

/-- The first granted slot is the first slot among the grants. -/
theorem slotIn?_eq_head? (grants : List Grant)
    : slotIn? grants = (grantedSlots grants).head? :=
  List.head?_filterMap.symm

/-- A step whose device asks for a slot owns the slot that is granted to it. -/
theorem RenderStep.owns_of_granted {step : RenderStep} {grants : List Grant}
    {iommuPlatform : Bool} {architecture : Architecture} {address : String}
    (h : Granted step.before step.planned.requests grants step.after)
    (options
      : step.options
        = step.planned.device.optionsFor (step.planned.placement iommuPlatform) architecture
            grants)
    (asks : step.planned.device.slotAddress? step.planned.transport = some address)
    : ∃ slot, step.Owns address slot := by
  obtain ⟨slot, allocated, granted, recorded⟩ := step.allocate_of_granted h asks
  obtain ⟨_, ⟨positive, inside⟩, _⟩ := RootBus.allocate_ok allocated
  have first : slotIn? grants = some slot := by
    rw [slotIn?_eq_head?, granted]
    rfl
  refine ⟨slot, allocated, recorded, ⟨positive, Nat.le_of_lt_succ inside⟩, ?_, ?_⟩
  · intro unusable
    have unasked : RootBus.requestedSlot? address = none := by
      apply Option.filter_eq_none_iff.mpr
      intro asked named wanted
      have range : 1 ≤ asked ∧ asked < slotCount := by simpa using wanted
      exact unusable asked named ⟨range.1, Nat.le_of_lt_succ range.2⟩
    exact RootBus.allocate_reserved unasked allocated
  · rw [options]
    exact Device.rendersSlot_optionsFor asks first (Nat.lt_trans inside (by decide)) architecture

namespace GrantedRun
variable {settings : BuildSettings} {config : Config}

/-- The options of the steps stand in the command line behind the settings before them. -/
theorem exists_options_eq (run : GrantedRun settings config)
    : ∃ before after,
        run.invocation.options
          = before ++ (deviceSteps settings config).flatMap RenderStep.options ++ after := by
  refine ⟨stagesBeforeDevices.flatMap (Stage.settings config (settings.host config)),
    stagesBeforeIncoming.flatMap (Stage.settings config (settings.host config))
      ++ config.incoming.optionsFor run.incoming
      ++ stagesAfterIncoming.flatMap (Stage.settings config (settings.host config)), ?_⟩
  rw [run.options_eq, run.options_devices]
  simp only [List.append_assoc]

/-- The arguments of the steps stand in the command line, one after the other. -/
theorem exists_arguments_eq (run : GrantedRun settings config)
    : ∃ before after,
        run.invocation.arguments
          = before
            ++ (deviceSteps settings config).flatMap (fun step => argumentsOf step.options)
            ++ after := by
  obtain ⟨before, after, options⟩ := run.exists_options_eq
  refine ⟨argumentsOf before, argumentsOf after, ?_⟩
  rw [Invocation.arguments, options, argumentsOf_append, argumentsOf_append, argumentsOf_flatMap]

end GrantedRun

/-- In an assembly that succeeds, every device that is placed owns its slot, and the occupied
slots are those of the root ports and bridges and of these devices. The slots are granted by
one run of requests, which begins with all claims.
-/
theorem slots_owned_of_build {settings : BuildSettings} {config : Config}
    {invocation : Invocation} (built : (build settings config).outcome = .ok invocation)
    : SlotsOwned settings config invocation := by
  obtain ⟨valid, run, rfl⟩ := build_ok_iff.mp built
  constructor
  case planned => exact run.steps_planned
  case options => exact run.exists_options_eq
  case arguments => exact run.exists_arguments_eq
  case distinct =>
    rw [run.slots_eq]
    exact run.granted.slots_nodup
  case unclaimed =>
    intro slot member
    rw [run.slots_eq] at member
    exact run.granted.slots_unclaimed member
  case owned =>
    intro step member address asks
    obtain ⟨own, granted, options⟩ := run.step_granted member
    exact step.owns_of_granted granted options asks
  case occupied =>
    refine ⟨run.final, run.renderAll.2, ?_⟩
    intro slot
    rw [RootBus.mem_usedSlots, run.slots_eq]
    exact run.granted.isUsed_config slot

/-- A guest with devices that name a free slot, an occupied one, one beyond the bus, or none,
beside a root port and a bridge.
-/
def mixedGuest : Config where
  rootPorts := [{ id := "rp0", address := "0x2.0x0", multifunction := true }]
  bridges := [{ id := "br0", type := .pcie, bus := "pcie.0", address := "29" }]
  scsiControllers := [{ id := "scsi0", address := "0x1e" }]
  ideControllers := [{ id := "ide0", driver := "ahci" }]
  usbControllers := [{ id := "usb0", driver := "qemu-xhci", address := "pcie.0/2" }]
  disks :=
    [{ id := "d0", driver := "virtio-blk", file := "a.img", interface := "none",
       format := "raw", address := "99" }]
  netDevices := [{ id := "n0", driver := "virtio-net", address := "1" }]
  entropySources := [{ id := "rng0", driver := "virtio-rng" }]

/-- The mixed guest is assembled under the legacy policy, and its devices own their slots. -/
theorem slots_owned_mixedGuest
    : ∃ invocation,
        (build { policy := .legacy } mixedGuest).outcome = .ok invocation
        ∧ SlotsOwned { policy := .legacy } mixedGuest invocation := by
  have succeeds : (build { policy := .legacy } mixedGuest).outcome.toOption.isSome = true := by
    decide +kernel
  obtain ⟨invocation, built⟩ := BuildReport.exists_invocation succeeds
  exact ⟨invocation, built, slots_owned_of_build built⟩

end GuestLaunch
