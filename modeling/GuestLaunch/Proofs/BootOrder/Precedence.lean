import GuestLaunch.Proofs.BootOrder.IndexLedger
import GuestLaunch.Proofs.BootOrder.Readback
import GuestLaunch.Proofs.Outcome.Validity
import GuestLaunch.Proofs.Placement.RenderTrace
import Mathlib.Data.List.Nodup
import Mathlib.Data.Option.Basic

/-!
The boot order of a guest. Explicit boot indices are rendered as they are written, and automatic
ones count upwards from behind the largest explicit one, wherever its device stands and whether
or not it is rendered.
-/

namespace GuestLaunch

namespace Device

/-- Whether a device leaves the choice of its boot index to the run. -/
def isAutomatic (device : Device) : Bool := device.bootIndex? == some BootIndex.automatic

/-- Whether rendering a device takes the next boot index. -/
def takesIndex (device : Device) : Bool := device.isAutomatic && device.isBootable

end Device

def RenderStep.isAutomatic (step : RenderStep) : Bool := step.planned.device.isAutomatic

/-- The boot indices that a step renders. -/
def RenderStep.bootIndices (step : RenderStep) : List String := readBootIndices step.options

/-- The boot indices in the command line of an assembly that gives an invocation. -/
structure BootIndicesOrdered (settings : BuildSettings) (config : Config)
    (invocation : Invocation) : Prop where
  /-- The steps go through the plan of the configuration. -/
  planned
    : (deviceSteps settings config).map RenderStep.planned
      = config.plan (settings.host config)
  /-- The command line has the boot indices of the steps and no others. -/
  rendered
    : readBootIndices invocation.options
      = (deviceSteps settings config).flatMap RenderStep.bootIndices
  numeric
    : ∀ text ∈ readBootIndices invocation.options, (BootIndex.explicit? text).isSome = true
  distinct : ((readBootIndices invocation.options).map BootIndex.explicit?).Nodup
  above
    : ∀ step ∈ deviceSteps settings config, step.isAutomatic = true →
        ∀ text ∈ step.bootIndices,
          ∃ value,
            BootIndex.explicit? text = some value
            ∧ ∀ index ∈ config.explicitBootIndices, index < value
  /-- The automatic indices count upwards from behind the largest explicit one. -/
  consecutive
    : ((deviceSteps settings config).filter RenderStep.isAutomatic).flatMap
          RenderStep.bootIndices
      = (List.range' (numberBehind config.explicitBootIndices)
            (config.devices.countP Device.takesIndex)).map
          Text.decimal

-----------------------------------------------------------------------------------------
-- Devices
-----------------------------------------------------------------------------------------

/-- The text of a boot index is read as the index. -/
theorem BootIndex.explicit?_decimal (index : UInt32)
    : explicit? (Text.decimal index.toNat) = some index := by
  rw [explicit?, Text.decimal, String.toList_ofList,
    Text.Numeral.natural?_write index.toNat_lt, Option.map_some, UInt32.ofNat_toNat]

theorem count_number_claimRequests (bus address : String)
    : (claimRequests bus address).count .number = 0 := by
  unfold claimRequests
  cases rootSlotOf? bus address <;> rfl

theorem count_number_slotRequests (address : Option String)
    : (slotRequests address).count .number = 0 := by
  cases address <;> rfl

theorem count_number_inheritRequests (key : String) (descriptors : List Int32)
    : (inheritRequests key descriptors).count .number = 0 := by
  unfold inheritRequests
  split <;> rfl

theorem count_number_indexRequests (configured : Option String)
    : (indexRequests configured).count .number
      = if configured == some BootIndex.automatic then 1 else 0 := by
  simp only [indexRequests, beq_iff_eq]
  split <;> rfl

namespace Device

/-- A device asks for a boot index at most once, and only if it takes one, by the kind of the
device.
-/
theorem count_number_requests (device : Device) (transport : Transport)
    : (device.requests transport).count .number = if device.takesIndex then 1 else 0 := by
  cases device with
  | disk device =>
      cases alone : device.driveOnly <;>
        simp [requests, Disk.requests, takesIndex, isAutomatic, isBootable, bootIndex?, alone,
          count_number_slotRequests, count_number_indexRequests]
  | net device =>
      have backend : device.backendRequests.count .number = 0 := by
        unfold NetDevice.backendRequests
        split
        · rfl
        · rw [List.count_append, count_number_inheritRequests, count_number_inheritRequests]
      cases skipped : device.isSkipped <;> cases bare : device.driver.isEmpty <;>
        simp [requests, NetDevice.requests, NetDevice.cardRequests, takesIndex, isAutomatic,
          isBootable, bootIndex?, skipped, bare, backend, count_number_slotRequests,
          count_number_indexRequests]
  | rootPort device => exact count_number_claimRequests _ _
  | bridge device => exact count_number_claimRequests _ _
  | scsi device => exact count_number_slotRequests _
  | entropy device => exact count_number_slotRequests _
  | _ => rfl

/-- A boot index that passes the check of its device is empty, automatic or explicit. -/
theorem bootIndex_of_valid {device : Device} (valid : device.problem? = none) {text : String}
    (configured : device.bootIndex? = some text)
    : text.isEmpty = true
      ∨ text = BootIndex.automatic
      ∨ (BootIndex.explicit? text).isSome = true := by
  have checked (label : String) (h : BootIndex.check label (some text) = none)
      : text.isEmpty = true
        ∨ text = BootIndex.automatic
        ∨ (BootIndex.explicit? text).isSome = true := by
    by_contra other
    obtain ⟨present, chosen, unread⟩ := not_or.mp other |>.imp_right not_or.mp
    simp [BootIndex.check, present, chosen, unread] at h
  cases device with
  | disk device =>
      have own : device.bootIndex = some text := configured
      simp only [problem?, Disk.problem?, Option.orElse_eq_none, own] at valid
      exact checked _ valid.2.2.2.2.2.2
  | net device =>
      have own : device.bootIndex = some text := configured
      simp only [problem?, NetDevice.problem?, Option.orElse_eq_none, own] at valid
      exact checked _ valid.2.2.2.2
  | _ => cases configured

end Device

-----------------------------------------------------------------------------------------
-- Steps
-----------------------------------------------------------------------------------------

/-- The boot indices that are granted to a device that takes one are those that it renders, and
a device that takes none is granted none.
-/
theorem Device.bootIndexFor_of_granted {device : Device} {transport : Transport}
    {state next : RunState} {grants : List Grant}
    (h : Granted state (device.requests transport) grants next)
    (automatic : device.isAutomatic = true)
    : (bootIndexFor device.shownBootIndex? grants).toList
      = (grantedIndices grants).map fun index => Text.decimal index.toNat := by
  have configured : device.bootIndex? = some BootIndex.automatic := by
    simpa [isAutomatic] using automatic
  have length : (grantedIndices grants).length = if device.isBootable then 1 else 0 := by
    rw [h.length_grantedIndices fun _ member => Config.unreserved_of_device member,
      device.count_number_requests]
    simp [takesIndex, automatic]
  cases shown : device.isBootable with
  | false =>
      rw [shown] at length
      rw [List.eq_nil_of_length_eq_zero length, shownBootIndex?, shown]
      rfl
  | true =>
      rw [shown] at length
      obtain ⟨index, own⟩ := List.length_eq_one_iff.mp length
      rw [shownBootIndex?, shown, if_pos rfl, configured, own]
      show (bootIndexFor (some BootIndex.automatic) grants).toList = _
      have present : BootIndex.automatic.isEmpty = false := by decide
      simp [bootIndexFor, present, indexIn?_eq_head?, own]

/-- A device that takes no boot index is granted none. -/
theorem Device.grantedIndices_eq_nil {device : Device} {transport : Transport}
    {state next : RunState} {grants : List Grant}
    (h : Granted state (device.requests transport) grants next)
    (chosen : device.isAutomatic = false)
    : grantedIndices grants = [] := by
  apply List.eq_nil_of_length_eq_zero
  rw [h.length_grantedIndices fun _ member => Config.unreserved_of_device member,
    device.count_number_requests]
  simp [takesIndex, chosen]

/-- What a device renders that does not leave the choice to the run is its explicit boot index,
by the form of the configured one.
-/
theorem Device.explicit_bootIndexFor {device : Device} (valid : device.problem? = none)
    (chosen : device.isAutomatic = false) (grants : List Grant)
    : ((bootIndexFor device.shownBootIndex? grants).toList.map BootIndex.explicit?).Sublist
        (device.explicitBootIndex?.toList.map some) := by
  cases configured : device.bootIndex? with
  | none => simp [shownBootIndex?, configured, bootIndexFor]
  | some text =>
      have other : text ≠ BootIndex.automatic := by
        rintro rfl
        simp [isAutomatic, configured] at chosen
      cases shown : device.isBootable with
      | false =>
          rw [shownBootIndex?, shown]
          exact List.nil_sublist _
      | true =>
          rw [shownBootIndex?, shown, if_pos rfl, configured]
          rcases bootIndex_of_valid valid configured with empty | automatic | explicit
          · simp [bootIndexFor, empty]
          · exact absurd automatic other
          · obtain ⟨index, read⟩ := Option.isSome_iff_exists.mp explicit
            have own : device.explicitBootIndex? = some index := by
              rw [explicitBootIndex?, configured, Option.bind_some, read]
            cases empty : text.isEmpty <;> simp [bootIndexFor, empty, other, own, read]

namespace PlanGranted
variable {state final : RunState} {plan : List PlannedDevice} {grants : List (List Grant)}

/-- The automatic boot indices of the steps are those that the plan is granted, by induction on
the plan.
-/
theorem automatic_bootIndices (h : PlanGranted state plan grants final)
    (architecture : Architecture) (iommuPlatform : Bool)
    : ((renderSteps architecture iommuPlatform state plan).filter
          RenderStep.isAutomatic).flatMap RenderStep.bootIndices
      = (grantedIndices grants.flatten).map fun index => Text.decimal index.toNat := by
  induction h with
  | nil => rfl
  | @cons state next final planned rest grants more first _ ih =>
      let step : RenderStep :=
        { planned
          before := state
          options :=
            planned.device.optionsFor (planned.placement iommuPlatform) architecture grants
          after := next }
      have read : step.bootIndices
          = (bootIndexFor planned.device.shownBootIndex? grants).toList :=
        planned.device.readBootIndices_optionsFor _ _ _
      rw [renderSteps_cons first, List.flatten_cons, grantedIndices_append, List.map_append]
      cases automatic : planned.device.isAutomatic with
      | false =>
          have skipped : step.isAutomatic = false := automatic
          rw [List.filter_cons_of_neg (by simp [step, skipped]), ih,
            Device.grantedIndices_eq_nil first automatic]
          rfl
      | true =>
          have kept : step.isAutomatic = true := automatic
          rw [List.filter_cons_of_pos kept, List.flatMap_cons, ih, read,
            Device.bootIndexFor_of_granted first automatic]

/-- The other boot indices of the steps are among the explicit ones of the plan, by induction on
the plan.
-/
theorem explicit_bootIndices (h : PlanGranted state plan grants final)
    (valid : ∀ planned ∈ plan, planned.device.problem? = none)
    (architecture : Architecture) (iommuPlatform : Bool)
    : ((((renderSteps architecture iommuPlatform state plan).filter
          fun step => !step.isAutomatic).flatMap RenderStep.bootIndices).map
          BootIndex.explicit?).Sublist
        ((plan.flatMap fun planned => planned.device.explicitBootIndex?.toList).map some) := by
  induction h with
  | nil => exact List.Sublist.refl []
  | @cons state next final planned rest grants more first _ ih =>
      let step : RenderStep :=
        { planned
          before := state
          options :=
            planned.device.optionsFor (planned.placement iommuPlatform) architecture grants
          after := next }
      have read : step.bootIndices
          = (bootIndexFor planned.device.shownBootIndex? grants).toList :=
        planned.device.readBootIndices_optionsFor _ _ _
      have later := ih fun other member => valid other (List.mem_cons_of_mem _ member)
      rw [renderSteps_cons first, List.flatMap_cons, List.map_append, List.filter_cons]
      cases automatic : planned.device.isAutomatic with
      | true =>
          have skipped : (!step.isAutomatic) = false := by
            simp [step, RenderStep.isAutomatic, automatic]
          rw [if_neg (by rw [skipped]; decide)]
          exact later.trans (List.sublist_append_right _ _)
      | false =>
          have kept : (!step.isAutomatic) = true := by
            simp [step, RenderStep.isAutomatic, automatic]
          rw [if_pos kept, List.flatMap_cons, List.map_append, read]
          exact (Device.explicit_bootIndexFor (valid planned List.mem_cons_self) automatic
            grants).append later

end PlanGranted

-----------------------------------------------------------------------------------------
-- Assemblies
-----------------------------------------------------------------------------------------

/-- A plan asks for one boot index for each of its devices that takes one, by induction on the
devices.
-/
theorem count_number_plan (host : Host) (devices : List Device)
    : ((devices.map (PlannedDevice.of host)).flatMap PlannedDevice.requests).count .number
      = devices.countP Device.takesIndex := by
  induction devices with
  | nil => rfl
  | cons device rest ih =>
      have own : (PlannedDevice.of host device).requests.count .number
          = if device.takesIndex then 1 else 0 :=
        device.count_number_requests _
      rw [List.map_cons, List.flatMap_cons, List.count_append, ih, own, List.countP_cons,
        Nat.add_comm]

namespace GrantedRun
variable {settings : BuildSettings} {config : Config}

/-- The boot indices that a run grants to its devices count upwards from behind the largest
explicit one.
-/
theorem indices_eq (run : GrantedRun settings config)
    : (grantedIndices run.grants.flatten).map UInt32.toNat
      = List.range' (numberBehind config.explicitBootIndices)
          (config.devices.countP Device.takesIndex) := by
  have start : run.reserved.nextIndex = numberBehind config.explicitBootIndices :=
    run.reserve_granted.nextIndex_reserves.trans (Nat.max_zero _)
  have numbers := (run.devices_granted.granted.indices_eq fun _ =>
    Config.unreserved_of_plan).1
  rw [numbers, start]
  congr 1
  exact count_number_plan _ _

/-- Every boot index that a run grants to a device is greater than all explicit ones. -/
theorem lt_of_granted (run : GrantedRun settings config) {index own : UInt32}
    (granted : index ∈ grantedIndices run.grants.flatten)
    (explicit : own ∈ config.explicitBootIndices)
    : own < index := by
  have number : index.toNat ∈ List.range' (numberBehind config.explicitBootIndices)
      (config.devices.countP Device.takesIndex) := by
    rw [← run.indices_eq]
    exact List.mem_map_of_mem granted
  have behind := (List.mem_range'_1.mp number).1
  exact UInt32.lt_iff_toNat_lt.mpr (Nat.lt_of_lt_of_le (lt_numberBehind explicit) behind)

/-- The automatic boot indices of the steps are those that the run grants. -/
theorem automatic_bootIndices (run : GrantedRun settings config)
    : ((deviceSteps settings config).filter RenderStep.isAutomatic).flatMap
          RenderStep.bootIndices
      = (grantedIndices run.grants.flatten).map fun index => Text.decimal index.toNat := by
  rw [run.deviceSteps_eq]
  exact run.devices_granted.automatic_bootIndices _ _

/-- The other boot indices of the steps are among the explicit ones of a valid configuration. -/
theorem explicit_bootIndices (run : GrantedRun settings config)
    (valid : config.problems = [])
    : ((((deviceSteps settings config).filter fun step => !step.isAutomatic).flatMap
          RenderStep.bootIndices).map BootIndex.explicit?).Sublist
        (config.explicitBootIndices.map some) := by
  have indices : config.explicitBootIndices
      = (config.plan (settings.host config)).flatMap fun planned =>
          planned.device.explicitBootIndex?.toList := by
    rw [Config.explicitBootIndices, List.filterMap_eq_flatMap_toList, Config.plan,
      List.flatMap_map]
    rfl
  rw [run.deviceSteps_eq, indices]
  refine run.devices_granted.explicit_bootIndices ?_ _ _
  intro planned member
  obtain ⟨device, listed, rfl⟩ := List.mem_map.mp member
  exact Config.problem?_of_valid valid listed

/-- The boot indices of a command line are those of the steps. -/
theorem readBootIndices_steps (run : GrantedRun settings config)
    : readBootIndices run.invocation.options
      = (deviceSteps settings config).flatMap RenderStep.bootIndices := by
  rw [run.readBootIndices_invocation, run.options_devices]
  exact propertyValues_flatMap _ _

/-- The numbers of the boot indices in a command line are those that the run grants and some of
the explicit ones, in the order in which their devices stand.
-/
theorem explicit_readBootIndices (run : GrantedRun settings config)
    (valid : config.problems = [])
    : ∃ chosen,
        chosen.Sublist config.explicitBootIndices
        ∧ ((readBootIndices run.invocation.options).map BootIndex.explicit?).Perm
            ((grantedIndices run.grants.flatten ++ chosen).map some) := by
  obtain ⟨chosen, among, explicit⟩ := List.sublist_map_iff.mp (run.explicit_bootIndices valid)
  have automatic : (((deviceSteps settings config).filter RenderStep.isAutomatic).flatMap
        RenderStep.bootIndices).map BootIndex.explicit?
      = (grantedIndices run.grants.flatten).map some := by
    rw [run.automatic_bootIndices, List.map_map]
    exact List.map_congr_left fun index _ => BootIndex.explicit?_decimal index
  refine ⟨chosen, among, ?_⟩
  rw [run.readBootIndices_steps, List.map_append, ← automatic, ← explicit,
    ← List.map_append, ← List.flatMap_append]
  exact (((List.filter_append_perm _ _).flatMap_right _).map _).symm

end GrantedRun

/-- In an assembly that succeeds, the boot indices of the command line are distinct, and the
automatic ones count upwards from behind the largest explicit one. The explicit ones are recorded
before any device is rendered.
-/
theorem bootIndices_ordered_of_build {settings : BuildSettings} {config : Config}
    {invocation : Invocation} (built : (build settings config).outcome = .ok invocation)
    : BootIndicesOrdered settings config invocation := by
  obtain ⟨valid, run, rfl⟩ := build_ok_iff.mp built
  obtain ⟨chosen, among, numbers⟩ := run.explicit_readBootIndices valid
  constructor
  case planned =>
    rw [run.deviceSteps_eq]
    exact run.devices_granted.steps_planned settings.architecture config.knobs.iommuPlatform
  case rendered => exact run.readBootIndices_steps
  case numeric =>
    intro text member
    have listed := numbers.mem_iff.mp (List.mem_map_of_mem member)
    obtain ⟨index, _, read⟩ := List.mem_map.mp listed
    rw [← read]
    rfl
  case distinct =>
    rw [numbers.nodup_iff]
    refine List.Nodup.map (Option.some_injective _) (List.nodup_append.mpr ⟨?_, ?_, ?_⟩)
    · exact List.Nodup.of_map UInt32.toNat (by rw [run.indices_eq]; exact List.nodup_range')
    · exact among.nodup
        ((granted_reserves_iff _ _).mp ⟨_, _, run.reserve_granted⟩).1
    · rintro index granted own explicit rfl
      exact absurd (run.lt_of_granted granted (among.subset explicit)) (UInt32.lt_irrefl _)
  case above =>
    intro step member automatic text shown
    have listed : text ∈ ((deviceSteps settings config).filter RenderStep.isAutomatic).flatMap
        RenderStep.bootIndices :=
      List.mem_flatMap.mpr ⟨step, List.mem_filter.mpr ⟨member, automatic⟩, shown⟩
    rw [run.automatic_bootIndices] at listed
    obtain ⟨index, granted, rfl⟩ := List.mem_map.mp listed
    exact ⟨index, BootIndex.explicit?_decimal index, fun own => run.lt_of_granted granted⟩
  case consecutive =>
    rw [run.automatic_bootIndices, ← run.indices_eq, List.map_map]
    rfl

/-- A guest with boot indices in several spellings, one of them on a drive that has no device, and
with devices that leave the choice to the run before and behind them.
-/
def bootableGuest : Config where
  disks :=
    [{ id := "d0", driver := "virtio-blk", file := "a.img", interface := "none",
       format := "raw", bootIndex := some "auto" },
      { id := "d1", driver := "virtio-blk", file := "b.img", interface := "none",
        format := "raw", bootIndex := some "+5" },
      { id := "d2", driver := "virtio-blk", file := "c.img", interface := "none",
        format := "raw", bootIndex := some "007", driveOnly := true }]
  netDevices :=
    [{ id := "n0", driver := "virtio-net", bootIndex := some "auto" },
      { id := "n1", driver := "virtio-net", bootIndex := some "3" },
      { id := "n2", driver := "virtio-net", type := .macvtap, bootIndex := some "auto" }]

/-- The bootable guest is assembled, and its boot indices are ordered. -/
theorem bootIndices_ordered_bootableGuest
    : ∃ invocation,
        (build {} bootableGuest).outcome = .ok invocation
        ∧ BootIndicesOrdered {} bootableGuest invocation := by
  have succeeds : (build {} bootableGuest).outcome.toOption.isSome = true := by
    decide +kernel
  obtain ⟨invocation, built⟩ := BuildReport.exists_invocation succeeds
  exact ⟨invocation, built, bootIndices_ordered_of_build built⟩

end GuestLaunch
