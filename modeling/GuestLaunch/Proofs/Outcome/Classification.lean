import GuestLaunch.Proofs.Addresses.Numbers
import GuestLaunch.Proofs.Placement.DeviceSlots
import Mathlib.Data.List.Induction

/-!
Classification of outcomes. Which failure an assembly reports, if any, can be read off the
configuration in a fixed order: its problems, its explicit boot indices, and the slots that its
root ports and bridges claim. Only behind these does the outcome depend on the run.
-/

namespace GuestLaunch

/-- A value is the first of a list that repeats an earlier one. -/
def FirstRepeat {α : Type} (values : List α) (value : α) : Prop :=
  ∃ before after, values = before ++ value :: after ∧ before.Nodup ∧ value ∈ before

/-- A slot is the first of a list that lies beyond the end of the bus. -/
def FirstBeyond (slots : List Nat) (slot : Nat) : Prop :=
  ∃ before after,
    slots = before ++ slot :: after
    ∧ (∀ earlier ∈ before, earlier < slotCount)
    ∧ slotCount ≤ slot

/-- A list has a first repeat exactly if it repeats anything, by induction on the list. -/
theorem exists_firstRepeat_iff {α : Type} (values : List α)
    : (∃ value, FirstRepeat values value) ↔ ¬values.Nodup := by
  constructor
  · rintro ⟨value, before, after, rfl, _, repeated⟩ distinct
    have apart := (List.nodup_append.mp distinct).2.2
    exact apart value repeated value (by simp) rfl
  · intro repeats
    induction values using List.reverseRecOn with
    | nil => exact absurd List.nodup_nil repeats
    | append_singleton before value ih =>
        by_cases distinct : before.Nodup
        · refine ⟨value, before, [], rfl, distinct, ?_⟩
          by_contra fresh
          refine repeats (List.nodup_append.mpr ⟨distinct, by simp, ?_⟩)
          intro other member own same
          rw [List.mem_singleton.mp same]
          rintro rfl
          exact fresh member
        · obtain ⟨repeated, start, rest, rfl, apart, member⟩ := ih distinct
          exact ⟨repeated, start, rest ++ [value], by simp, apart, member⟩

/-- A list has a first slot beyond the end of the bus exactly if it has any, by induction on the
list.
-/
theorem exists_firstBeyond_iff (slots : List Nat)
    : (∃ slot, FirstBeyond slots slot) ↔ ∃ slot ∈ slots, slotCount ≤ slot := by
  constructor
  · rintro ⟨slot, before, after, rfl, _, beyond⟩
    exact ⟨slot, by simp, beyond⟩
  · intro outside
    induction slots with
    | nil => simp at outside
    | cons first rest ih =>
        by_cases inside : first < slotCount
        · have later : ∃ slot ∈ rest, slotCount ≤ slot := by
            obtain ⟨slot, member, beyond⟩ := outside
            rcases List.mem_cons.mp member with rfl | behind
            · exact absurd inside (Nat.not_lt.mpr beyond)
            · exact ⟨slot, behind, beyond⟩
          obtain ⟨slot, before, after, rfl, within, beyond⟩ := ih later
          refine ⟨slot, first :: before, after, rfl, ?_, beyond⟩
          intro earlier member
          rcases List.mem_cons.mp member with rfl | behind
          · exact inside
          · exact within earlier behind
        · exact ⟨first, [], rest, rfl, by simp, Nat.not_lt.mp inside⟩

-----------------------------------------------------------------------------------------
-- The three parts of the requests of a configuration
-----------------------------------------------------------------------------------------

namespace Granted
variable {state final : RunState} {grants : List Grant}

/-- Once boot indices have been reserved, they are recorded beside those recorded before, by
induction on the indices.
-/
theorem contains_iff {indices : List UInt32}
    (h : Granted state (indices.map Request.reserve) grants final) (index : UInt32)
    : final.indices.contains IndexRegistry.bootCategory index = true
      ↔ state.indices.contains IndexRegistry.bootCategory index = true
        ∨ index ∈ indices := by
  induction indices generalizing state grants with
  | nil =>
      cases h
      simp
  | cons own rest ih =>
      cases h with
      | cons first later =>
          cases Request.answered_of_ok first with
          | reserve fresh =>
              rw [ih later, IndexRegistry.contains_insert, List.mem_cons]
              simp only [true_and]
              rw [or_comm (a := index = own), or_assoc]

end Granted

/-- Boot indices are reserved exactly if they are pairwise distinct and none of them has been
recorded before, by induction on the indices.
-/
theorem granted_reserves_iff (state : RunState) (indices : List UInt32)
    : (∃ grants final, Granted state (indices.map Request.reserve) grants final)
      ↔ indices.Nodup
        ∧ ∀ index ∈ indices,
            state.indices.contains IndexRegistry.bootCategory index = false := by
  induction indices generalizing state with
  | nil => exact ⟨fun _ => ⟨List.nodup_nil, by simp⟩, fun _ => ⟨[], state, .nil⟩⟩
  | cons own rest ih =>
      constructor
      · rintro ⟨_, final, _ | ⟨first, later⟩⟩
        cases Request.answered_of_ok first with
        | reserve fresh =>
            obtain ⟨distinct, apart⟩ := (ih _).mp ⟨_, final, later⟩
            have unrecorded (index : UInt32) (member : index ∈ rest)
                : index ≠ own
                  ∧ state.indices.contains IndexRegistry.bootCategory index = false := by
              have none := apart index member
              rw [← Bool.not_eq_true, IndexRegistry.contains_insert] at none
              simpa using none
            refine ⟨List.nodup_cons.mpr ⟨?_, distinct⟩, ?_⟩
            · intro again
              exact (unrecorded own again).1 rfl
            · intro index member
              rcases List.mem_cons.mp member with rfl | behind
              · exact fresh
              · exact (unrecorded index behind).2
      · rintro ⟨distinct, fresh⟩
        obtain ⟨apart, rest_distinct⟩ := List.nodup_cons.mp distinct
        let next : RunState :=
          { state with
            indices := state.indices.insert IndexRegistry.bootCategory own }
        have first : (Request.reserve own).answer state = .ok (.recorded, next) := by
          rw [Request.answer, IndexRegistry.reserve_boot, fresh own (by simp)]
          rfl
        have later : ∀ index ∈ rest,
            next.indices.contains IndexRegistry.bootCategory index = false := by
          intro index member
          rw [← Bool.not_eq_true, IndexRegistry.contains_insert]
          rintro (⟨_, rfl⟩ | recorded)
          · exact apart member
          · exact absurd recorded (by simp [fresh index (by simp [member])])
        obtain ⟨grants, final, granted⟩ := (ih next).mpr ⟨rest_distinct, later⟩
        exact ⟨_, final, .cons first granted⟩

/-- Slots are claimed exactly if all of them lie on the bus, by induction on the slots. -/
theorem granted_claims_iff (state : RunState) (slots : List Nat)
    : (∃ grants final, Granted state (slots.map Request.claim) grants final)
      ↔ ∀ slot ∈ slots, slot < slotCount := by
  induction slots generalizing state with
  | nil => exact ⟨fun _ => by simp, fun _ => ⟨[], state, .nil⟩⟩
  | cons own rest ih =>
      constructor
      · rintro ⟨_, final, _ | ⟨first, later⟩⟩ slot member
        cases Request.answered_of_ok first with
        | claim inside =>
            rcases List.mem_cons.mp member with rfl | behind
            · exact inside
            · exact (ih _).mp ⟨_, final, later⟩ slot behind
      · intro inside
        have first := Request.answer_claim_of_inside state (inside own List.mem_cons_self)
        obtain ⟨grants, final, granted⟩ :=
          (ih _).mpr fun slot member => inside slot (by simp [member])
        exact ⟨_, final, .cons first granted⟩

/-- The causes for which what follows the boot indices and the claims may be refused: no
automatic slot is left, a slot that is asked for collides under the strict policy, or the
greatest boot index has no successor.
-/
inductive LateCause (policy : CollisionPolicy) : AllocationError → Prop
  | exhausted : LateCause policy (.exhausted 4 30)
  | collision {slot} (strict : policy = .strict) : LateCause policy (.collision slot)
  | noNextIndex : LateCause policy (.noNextIndex IndexRegistry.bootCategory)

/-- Reserving boot indices from the start of a run is refused exactly for the first index that
repeats an earlier one.
-/
theorem refused_reserves_iff {policy : CollisionPolicy} {indices : List UInt32}
    {cause : AllocationError}
    : (∃ final,
          Refused (RunState.initial policy) (indices.map Request.reserve) cause final)
      ↔ ∃ index,
          cause = .indexTaken IndexRegistry.bootCategory index
          ∧ FirstRepeat indices index := by
  constructor
  · rintro ⟨final, refused⟩
    obtain ⟨before, request, after, grants, split, granted, refusal⟩ :=
      refused.exists_refusal
    obtain ⟨earlier, rest, rfl, rfl, last⟩ := List.map_eq_append_iff.mp split
    obtain ⟨index, later, rfl, rfl, rfl⟩ := List.map_eq_cons_iff.mp last
    have distinct := ((granted_reserves_iff _ _).mp ⟨grants, final, granted⟩).1
    cases refusal with
    | indexTaken taken =>
        rcases (granted.contains_iff index).mp taken with start | member
        · cases start
        · exact ⟨index, rfl, earlier, later, rfl, distinct, member⟩
  · rintro ⟨index, rfl, before, after, rfl, distinct, member⟩
    obtain ⟨grants, final, granted⟩ :=
      (granted_reserves_iff (RunState.initial policy) before).mpr
        ⟨distinct, fun _ _ => rfl⟩
    have taken := (granted.contains_iff index).mpr (Or.inr member)
    have first : (Request.reserve index).answer final
        = .error (.indexTaken IndexRegistry.bootCategory index) := by
      rw [Request.answer, IndexRegistry.reserve_boot, taken]
      rfl
    rw [List.map_append, List.map_cons]
    exact ⟨final, granted.refuse (.here first)⟩

/-- Claiming slots is refused exactly for the first slot beyond the end of the bus. -/
theorem refused_claims_iff {state : RunState} {slots : List Nat} {cause : AllocationError}
    : (∃ final, Refused state (slots.map Request.claim) cause final)
      ↔ ∃ slot, cause = .outOfRange slot ∧ FirstBeyond slots slot := by
  constructor
  · rintro ⟨final, refused⟩
    obtain ⟨before, request, after, grants, split, granted, refusal⟩ :=
      refused.exists_refusal
    obtain ⟨earlier, rest, rfl, rfl, last⟩ := List.map_eq_append_iff.mp split
    obtain ⟨slot, later, rfl, rfl, rfl⟩ := List.map_eq_cons_iff.mp last
    have inside := (granted_claims_iff _ _).mp ⟨grants, final, granted⟩
    cases refusal with
    | outOfRange beyond => exact ⟨slot, rfl, earlier, later, rfl, inside, beyond⟩
  · rintro ⟨slot, rfl, before, after, rfl, inside, beyond⟩
    obtain ⟨grants, final, granted⟩ := (granted_claims_iff state before).mpr inside
    have last := Request.answer_claim_of_beyond final beyond
    rw [List.map_append, List.map_cons]
    exact ⟨final, granted.refuse (.here last)⟩

namespace Config

/-- A request is no reservation of a boot index. -/
def Unreserved (request : Request) : Prop := ∀ index, request ≠ .reserve index

/-- No device reserves a boot index while it is rendered, by the kind of the device. -/
theorem unreserved_of_device {device : Device} {transport : Transport} {request : Request}
    (member : request ∈ device.requests transport)
    : Unreserved request := by
  rintro index rfl
  cases device with
  | rootPort device =>
      simp [Device.requests, RootPort.requests, claimRequests] at member
  | bridge device =>
      simp [Device.requests, Bridge.requests, claimRequests] at member
  | scsi device =>
      simp [Device.requests, ScsiController.requests, slotRequests] at member
  | ide device =>
      simp [Device.requests, PciController.requests, slotRequests] at member
  | usb device =>
      simp [Device.requests, PciController.requests, slotRequests] at member
  | disk device =>
      simp [Device.requests, Disk.requests, slotRequests, indexRequests] at member
  | net device =>
      cases keyword : device.type.backendKeyword? <;>
        simp [Device.requests, NetDevice.requests, NetDevice.backendRequests, keyword,
          NetDevice.cardRequests, slotRequests, indexRequests, inheritRequests] at member
  | entropy device =>
      simp [Device.requests, EntropySource.requests, slotRequests] at member
  | _ => cases member

/-- No plan of devices reserves a boot index. -/
theorem unreserved_of_plan {plan : List PlannedDevice} {request : Request}
    (member : request ∈ plan.flatMap PlannedDevice.requests)
    : Unreserved request := by
  obtain ⟨planned, _, own⟩ := List.mem_flatMap.mp member
  exact unreserved_of_device own

theorem unreserved_of_incoming {source : Migration} {request : Request}
    (member : request ∈ source.requests)
    : Unreserved request := by
  rintro index rfl
  cases source <;> simp [Migration.requests] at member

/-- What a configuration asks for behind its claims is refused for a late cause only, because
there are neither claims nor reservations any more.
-/
theorem lateCause_of_refused {config : Config} {host : Host} {state final : RunState}
    {cause : AllocationError} (h : Refused state (config.laterRequests host) cause final)
    : LateCause state.bus.policy cause := by
  obtain ⟨before, request, after, grants, split, granted, refusal⟩ := h.exists_refusal
  have member : request ∈ config.laterRequests host := by
    rw [split]
    simp
  cases refusal with
  | @outOfRange slot beyond =>
      have claimed : slot ∈ claimedSlots (config.laterRequests host) :=
        List.mem_filterMap.mpr ⟨_, member, rfl⟩
      rw [config.claimedSlots_laterRequests host] at claimed
      cases claimed
  | exhausted => exact .exhausted
  | collision strict => exact .collision (granted.policy_eq.symm.trans strict)
  | @indexTaken index taken =>
      rcases List.mem_append.mp member with own | migration
      · exact absurd rfl (unreserved_of_plan own index)
      · exact absurd rfl (unreserved_of_incoming migration index)
  | noNextIndex => exact .noNextIndex

end Config

/-- A configuration is refused something in one of three places: a boot index is repeated, or
all are distinct and a claimed slot lies beyond the end of the bus, or all claims succeed and
something is refused behind them.
-/
theorem refused_config_cases {policy : CollisionPolicy} {config : Config} {host : Host}
    {cause : AllocationError}
    (h : ∃ final, Refused (RunState.initial policy) (config.requests host) cause final)
    : (∃ index,
          cause = .indexTaken IndexRegistry.bootCategory index
          ∧ FirstRepeat config.explicitBootIndices index)
      ∨ (config.explicitBootIndices.Nodup
          ∧ ∃ slot, cause = .outOfRange slot ∧ FirstBeyond config.rootSlots slot)
      ∨ (config.explicitBootIndices.Nodup
          ∧ (∀ slot ∈ config.rootSlots, slot < slotCount)
          ∧ LateCause policy cause) := by
  obtain ⟨final, refused⟩ := h
  rcases refused.exists_phase with repeated | ⟨reservations, reserved, reserving, behind⟩
  · exact Or.inl (refused_reserves_iff.mp ⟨final, repeated⟩)
  · have distinct := ((granted_reserves_iff _ _).mp ⟨_, _, reserving⟩).1
    rcases behind with outside | ⟨recorded, claimed, claiming, late⟩
    · exact Or.inr (Or.inl ⟨distinct, refused_claims_iff.mp ⟨final, outside⟩⟩)
    · have inside := (granted_claims_iff _ _).mp ⟨_, _, claiming⟩
      have policy : claimed.bus.policy = policy :=
        claiming.policy_eq.trans reserving.policy_eq
      exact Or.inr (Or.inr ⟨distinct, inside, policy ▸ Config.lateCause_of_refused late⟩)

/-- A configuration that repeats a boot index is refused the first one that is repeated. -/
theorem refused_of_firstRepeat {policy : CollisionPolicy} {config : Config} {host : Host}
    {index : UInt32} (repeated : FirstRepeat config.explicitBootIndices index)
    : ∃ final,
        Refused (RunState.initial policy) (config.requests host)
          (.indexTaken IndexRegistry.bootCategory index) final := by
  obtain ⟨final, refused⟩ := refused_reserves_iff.mpr ⟨index, rfl, repeated⟩
  rw [Config.requests_eq]
  exact ⟨final, refused.append _⟩

/-- A configuration with distinct boot indices that claims a slot beyond the end of the bus is
refused the first such slot.
-/
theorem refused_of_firstBeyond {policy : CollisionPolicy} {config : Config} {host : Host}
    {slot : Nat} (distinct : config.explicitBootIndices.Nodup)
    (beyond : FirstBeyond config.rootSlots slot)
    : ∃ final,
        Refused (RunState.initial policy) (config.requests host) (.outOfRange slot) final := by
  obtain ⟨grants, reserved, reserving⟩ :=
    (granted_reserves_iff (RunState.initial policy) _).mpr ⟨distinct, fun _ _ => rfl⟩
  obtain ⟨final, refused⟩ := refused_claims_iff.mpr ⟨slot, rfl, beyond⟩
  rw [Config.requests_eq]
  exact ⟨final, reserving.refuse (refused.append _)⟩

-----------------------------------------------------------------------------------------
-- Assemblies
-----------------------------------------------------------------------------------------

/-- A text is an explicit index if it writes a decimal number of 32 bits: digits, with any zeros
before them, behind one plus sign or none.
-/
theorem BootIndex.explicit?_eq_some_iff {text : String} {index : UInt32}
    : explicit? text = some index
      ↔ Text.Numeral.WritesNatural 10 text.toList index.toNat := by
  rw [explicit?, Option.map_eq_some_iff]
  constructor
  · rintro ⟨number, read, rfl⟩
    obtain ⟨writes, small⟩ := (Text.Numeral.natural?_eq_some_iff (by decide)).mp read
    rwa [UInt32.toNat_ofNat_of_lt' small]
  · intro writes
    refine ⟨index.toNat, ?_, UInt32.ofNat_toNat⟩
    exact (Text.Numeral.natural?_eq_some_iff (by decide)).mpr ⟨writes, index.toNat_lt_size⟩

namespace Config

/-- The explicit boot indices are those of the disks and then those of the network devices. -/
theorem explicitBootIndices_eq (config : Config)
    : config.explicitBootIndices
      = (config.disks.map Disk.bootIndex
          ++ config.netDevices.map NetDevice.bootIndex).filterMap
            fun configured => configured.bind BootIndex.explicit? := by
  have unset {β : Type} (items : List β)
      : items.filterMap (fun _ => (none : Option UInt32)) = [] :=
    List.filterMap_eq_nil_iff.mpr fun _ _ => rfl
  simp [explicitBootIndices, devices, Category.all, Category.devices, Function.comp_def,
    Device.explicitBootIndex?, Device.bootIndex?, unset]

/-- The claimed slots are those of the root ports and then those of the bridges. -/
theorem rootSlots_eq_append (config : Config)
    : config.rootSlots
      = config.rootPorts.filterMap
            (fun port => rootSlotOf? port.bus port.effectiveAddress)
        ++ config.bridges.filterMap fun bridge => rootSlotOf? bridge.bus bridge.address := by
  rw [rootSlots_eq, claimingDevices, List.filterMap_append, List.filterMap_map,
    List.filterMap_map]
  rfl

end Config

/-- What an assembly gives, read off the configuration. The run that asks for a boot index
behind the greatest one is left out of the last case.
-/
structure OutcomeClassified (settings : BuildSettings) (config : Config) : Prop where
  bootIndices
    : config.explicitBootIndices
      = (config.disks.map Disk.bootIndex
          ++ config.netDevices.map NetDevice.bootIndex).filterMap
            fun configured => configured.bind BootIndex.explicit?
  /-- Which texts are an index: those that write it as a decimal number. -/
  written
    : ∀ text index,
        BootIndex.explicit? text = some index
          ↔ Text.Numeral.WritesNatural 10 text.toList index.toNat
  rootSlots
    : config.rootSlots
      = config.rootPorts.filterMap
            (fun port => rootSlotOf? port.bus port.effectiveAddress)
        ++ config.bridges.filterMap fun bridge => rootSlotOf? bridge.bus bridge.address
  invalid
    : ∀ problems,
        (build settings config).outcome = .error (.invalid problems)
          ↔ config.problems = problems ∧ problems ≠ []
  /-- The index that is reported is the first to repeat an earlier one. -/
  indexTaken
    : ∀ category index,
        (build settings config).outcome = .error (.allocation (.indexTaken category index))
          ↔ category = IndexRegistry.bootCategory
            ∧ config.problems = []
            ∧ FirstRepeat config.explicitBootIndices index
  repeats : (∃ index, FirstRepeat config.explicitBootIndices index)
    ↔ ¬config.explicitBootIndices.Nodup
  /-- The slot that is reported is the first beyond the end of the bus. -/
  outOfRange
    : ∀ slot,
        (build settings config).outcome = .error (.allocation (.outOfRange slot))
          ↔ config.problems = []
            ∧ config.explicitBootIndices.Nodup
            ∧ FirstBeyond config.rootSlots slot
  beyond : (∃ slot, FirstBeyond config.rootSlots slot)
    ↔ ∃ slot ∈ config.rootSlots, 31 ≤ slot
  otherwise
    : config.problems = []
      → config.explicitBootIndices.Nodup
      → (∀ slot ∈ config.rootSlots, slot < 31)
      → (build settings config).outcome
          ≠ .error (.allocation (.noNextIndex IndexRegistry.bootCategory))
      → (∃ invocation, (build settings config).outcome = .ok invocation)
        ∨ (build settings config).outcome = .error (.allocation (.exhausted 4 30))
        ∨ (settings.policy = .strict
            ∧ ∃ slot,
                (build settings config).outcome = .error (.allocation (.collision slot)))
  namedCategory : (build settings config).outcome ≠ .error (.allocation .emptyCategory)

/-- The outcome of every assembly is classified: problems come before repeated boot indices,
these before slots beyond the end of the bus, and these before all that depends on the run. The
requests of a configuration stand in this order.
-/
theorem outcome_classified (settings : BuildSettings) (config : Config)
    : OutcomeClassified settings config := by
  have cases_of_error {cause : AllocationError}
      (failed : (build settings config).outcome = .error (.allocation cause)) :=
    refused_config_cases (build_error_iff.mp failed).2
  constructor
  case bootIndices => exact config.explicitBootIndices_eq
  case written =>
    intro text index
    exact BootIndex.explicit?_eq_some_iff
  case rootSlots => exact config.rootSlots_eq_append
  case invalid =>
    intro problems
    exact build_invalid_iff
  case indexTaken =>
    intro category index
    constructor
    · intro failed
      have valid := (build_error_iff.mp failed).1
      rcases cases_of_error failed with
        ⟨own, same, repeated⟩ | ⟨_, _, other, _⟩ | ⟨_, _, late⟩
      · cases same
        exact ⟨rfl, valid, repeated⟩
      · cases other
      · cases late
    · rintro ⟨rfl, valid, repeated⟩
      exact build_error_iff.mpr ⟨valid, refused_of_firstRepeat repeated⟩
  case repeats => exact exists_firstRepeat_iff config.explicitBootIndices
  case outOfRange =>
    intro slot
    constructor
    · intro failed
      have valid := (build_error_iff.mp failed).1
      rcases cases_of_error failed with
        ⟨_, other, _⟩ | ⟨distinct, own, same, outside⟩ | ⟨_, _, late⟩
      · cases other
      · cases same
        exact ⟨valid, distinct, outside⟩
      · cases late
    · rintro ⟨valid, distinct, outside⟩
      exact build_error_iff.mpr ⟨valid, refused_of_firstBeyond distinct outside⟩
  case beyond => exact exists_firstBeyond_iff config.rootSlots
  case otherwise =>
    intro valid distinct inside counted
    cases outcome : (build settings config).outcome with
    | ok invocation => exact Or.inl ⟨invocation, rfl⟩
    | error failure =>
        cases failure with
        | invalid problems =>
            obtain ⟨rfl, some⟩ := build_invalid_iff.mp outcome
            exact absurd valid some
        | allocation cause =>
            rcases cases_of_error outcome with
              ⟨index, _, repeated⟩ | ⟨_, slot, _, outside⟩ | ⟨_, _, late⟩
            · exact absurd distinct ((exists_firstRepeat_iff _).mp ⟨index, repeated⟩)
            · obtain ⟨far, member, beyond⟩ := (exists_firstBeyond_iff _).mp ⟨slot, outside⟩
              exact absurd (inside far member) (Nat.not_lt.mpr beyond)
            · cases late with
              | exhausted => exact Or.inr (Or.inl rfl)
              | collision strict => exact Or.inr (Or.inr ⟨strict, _, rfl⟩)
              | noNextIndex => exact absurd outcome counted
  case namedCategory =>
    intro failed
    rcases cases_of_error failed with ⟨_, other, _⟩ | ⟨_, _, other, _⟩ | ⟨_, _, late⟩
    · cases other
    · cases other
    · cases late

/-- Boot indices are compared as numbers, however they are written. -/
example
    : ["5", "+5", "05"].map BootIndex.explicit? = [some 5, some 5, some 5] := by
  decide

end GuestLaunch
