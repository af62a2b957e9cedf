import GuestLaunch.Proofs.BootOrder.Precedence
import GuestLaunch.Proofs.RunGrowth.Extension

/-!
The state of a run is append-only. Whatever is done to it, nothing is given back, and a device
adds one slot and one boot index at most. A device that fails may have added descriptors or a boot
index before it, but never a slot: behind its slot, only a boot index can be refused, and that only
because the counter overflows.
-/

namespace GuestLaunch

/-- The state of a run only grows. -/
structure AppendOnly (state : RunState) : Prop where
  /-- All that is in use after some steps is in use after any further ones. -/
  grows
    : ∀ earlier later, (state.afterAll earlier).Extends (state.afterAll (earlier ++ later))
  /-- A device that is rendered adds one slot at most. -/
  oneSlot
    : ∀ device placement architecture,
        ∃ added : Option Nat,
          ∀ slot,
            slot ∈ (state.after (.render device placement architecture)).bus.usedSlots
              ↔ slot ∈ state.bus.usedSlots ∨ added = some slot
  /-- A device that is rendered adds one boot index at most. -/
  oneIndex
    : ∀ device placement architecture,
        ∃ added : Option UInt32,
          ∀ index,
            index ∈ (state.after (.render device placement architecture)).bootIndices
              ↔ index ∈ state.bootIndices ∨ added = some index
  /-- A device that fails leaves the bus as it was. The cause that is left out is no error that a
  device returns: the counter of the boot indices overflows, and the program stops there.
  -/
  failed
    : ∀ device placement architecture cause after,
        (Device.render device placement architecture).run state = (.error cause, after)
        → after.bus = state.bus
          ∨ (cause = .noNextIndex IndexRegistry.bootCategory
              ∧ IndexRegistry.lastIndex ∈ state.bootIndices)

-----------------------------------------------------------------------------------------
-- What a device may add
-----------------------------------------------------------------------------------------

/-- A list of one value at most has its first value and no others. -/
theorem mem_iff_head?_eq_some {α : Type} {values : List α} (short : values.length ≤ 1)
    (value : α)
    : value ∈ values ↔ values.head? = some value := by
  match values with
  | [] => simp
  | [_] => simp [eq_comm]
  | _ :: _ :: _ => simp at short

/-- A device claims or asks for one slot at most. -/
theorem Device.slots_requests_le_one (device : Device) (transport : Transport)
    : (claimedSlots (device.requests transport)).length
        + (placedAddresses (device.requests transport)).length
      ≤ 1 := by
  rw [device.claimedSlots_requests, device.placedAddresses_requests]
  cases placed : device.slotAddress? transport with
  | none => cases device.rootSlot? <;> simp
  | some address => simp [rootSlot?_of_slotAddress? placed]

/-- A device asks for one boot index at most. -/
theorem Device.count_number_requests_le_one (device : Device) (transport : Transport)
    : (device.requests transport).count .number ≤ 1 := by
  rw [device.count_number_requests]
  split <;> omega

namespace Granted
variable {state final : RunState} {requests : List Request} {grants : List Grant}

/-- A run without reservations puts the boot indices that it grants before those in use, by
induction on the run.
-/
theorem bootIndices_eq (h : Granted state requests grants final)
    (unreserved : ∀ request ∈ requests, Config.Unreserved request)
    : final.bootIndices = (grantedIndices grants).reverse ++ state.bootIndices := by
  induction h with
  | nil => rfl
  | @cons state next final request rest grant grants first later ih =>
      rw [ih fun other member => unreserved other (List.mem_cons_of_mem _ member)]
      cases Request.answered_of_ok first with
      | number numbered =>
          obtain ⟨_, rfl⟩ := IndexRegistry.next_ok numbered
          simp [grantedIndices]
      | reserve => exact absurd rfl (unreserved _ List.mem_cons_self _)
      | claim | place | inherit => rfl

end Granted

-----------------------------------------------------------------------------------------
-- Rendering a device
-----------------------------------------------------------------------------------------

/-- Rendering a device, whether or not it succeeds, grants a first part of its requests. -/
theorem Device.exists_granted (device : Device) (placement : Placement)
    (architecture : Architecture) (state : RunState)
    : ∃ before after grants,
        device.requests placement.transport = before ++ after
        ∧ Granted state before grants
            (state.after (.render device placement architecture)) := by
  rw [state.after_eq]
  exact exists_granted_serveAll _ state

/-- A device that fails to be rendered has a request that is refused. -/
theorem Device.refused_of_render {device : Device} {placement : Placement}
    {architecture : Architecture} {state after : RunState} {cause : AllocationError}
    (h : (device.render placement architecture).run state = (.error cause, after))
    : Refused state (device.requests placement.transport) cause after := by
  rw [device.render_eq, Render.run_map] at h
  rcases granted_or_refused state (device.requests placement.transport) with
    ⟨grants, final, granted⟩ | ⟨own, final, refused⟩
  · rw [granted.serve] at h
    cases h
  · rw [refused.serve] at h
    cases h
    exact refused

/-- What is refused to a device leaves the bus as it was, unless it is a boot index behind the
greatest one: before the one slot that a device asks for, it has been granted no other.
-/
theorem Device.bus_eq_of_refused {device : Device} {transport : Transport}
    {state final : RunState} {cause : AllocationError}
    (h : Refused state (device.requests transport) cause final)
    : final.bus = state.bus
      ∨ (cause = .noNextIndex IndexRegistry.bootCategory
          ∧ IndexRegistry.lastIndex ∈ state.bootIndices) := by
  obtain ⟨before, request, after, grants, split, granted, answer⟩ := h.exists_answer
  have slots := device.slots_requests_le_one transport
  have numbers := device.count_number_requests_le_one transport
  have unreserved : ∀ request ∈ device.requests transport, Config.Unreserved request :=
    fun _ member => Config.unreserved_of_device member
  rw [split] at slots numbers unreserved
  rw [claimedSlots_append, placedAddresses_append, List.length_append,
    List.length_append] at slots
  -- A refused request for a slot is the only one of the device.
  have first (own : 1 ≤ (claimedSlots (request :: after)).length
        + (placedAddresses (request :: after)).length)
      : final.bus = state.bus :=
    granted.bus_eq (List.eq_nil_of_length_eq_zero (by omega))
      (List.eq_nil_of_length_eq_zero (by omega))
  cases Request.refusal_of_answer answer with
  | outOfRange beyond => exact Or.inl (first (by simp [claimedSlots, Request.claimed?]; omega))
  | exhausted => exact Or.inl (first (by simp [placedAddresses, Request.placed?]; omega))
  | collision strict =>
      exact Or.inl (first (by simp [placedAddresses, Request.placed?]; omega))
  | @indexTaken index taken => exact absurd rfl (unreserved (.reserve index) (by simp) index)
  | noNextIndex =>
      have recorded : IndexRegistry.lastIndex ∈ final.bootIndices :=
        (Request.number_error_iff.mp answer).1
      have none : before.count .number = 0 := by
        rw [List.count_append, List.count_cons_self] at numbers
        omega
      have early := fun request member => unreserved request (List.mem_append_left _ member)
      have length := granted.length_grantedIndices early
      rw [none] at length
      rw [granted.bootIndices_eq early, List.eq_nil_of_length_eq_zero length] at recorded
      exact Or.inr ⟨rfl, recorded⟩

/-- The state of every run is append-only, whatever devices are rendered to it. -/
theorem runState_appendOnly (state : RunState) : AppendOnly state := by
  constructor
  case grows =>
    intro earlier later
    rw [RunState.afterAll, RunState.afterAll, List.foldl_append]
    exact (state.afterAll earlier).extends_afterAll later
  case oneSlot =>
    intro device placement architecture
    obtain ⟨before, after, grants, split, granted⟩ :=
      device.exists_granted placement architecture state
    have slots := device.slots_requests_le_one placement.transport
    rw [split, claimedSlots_append, placedAddresses_append, List.length_append,
      List.length_append] at slots
    have short : (claimedSlots before ++ grantedSlots grants).length ≤ 1 := by
      rw [List.length_append, granted.length_grantedSlots]
      omega
    refine ⟨(claimedSlots before ++ grantedSlots grants).head?, fun slot => ?_⟩
    rw [RootBus.mem_usedSlots, RootBus.mem_usedSlots, granted.isUsed_iff,
      ← mem_iff_head?_eq_some short, List.mem_append]
  case oneIndex =>
    intro device placement architecture
    obtain ⟨before, after, grants, split, granted⟩ :=
      device.exists_granted placement architecture state
    have unreserved : ∀ request ∈ before, Config.Unreserved request := by
      intro request member
      apply Config.unreserved_of_device
      rw [split]
      exact List.mem_append_left _ member
    have short : (grantedIndices grants).length ≤ 1 := by
      have numbers := device.count_number_requests_le_one placement.transport
      rw [split, List.count_append] at numbers
      rw [granted.length_grantedIndices unreserved]
      omega
    refine ⟨(grantedIndices grants).head?, fun index => ?_⟩
    rw [granted.bootIndices_eq unreserved, ← mem_iff_head?_eq_some short, List.mem_append,
      List.mem_reverse, or_comm]
  case failed =>
    intro device placement architecture cause after failed
    exact Device.bus_eq_of_refused (Device.refused_of_render failed)

/-- A card that is refused its slot leaves the descriptors of its backend in the table. -/
example
    : let state : RunState := { bus := RootBus.occupy { policy := .strict } 5 }
      let card : NetDevice :=
        { id := "n0", driver := "virtio-net", type := .macvtap, queues := [7], address := "0x5" }
      (card.render { transport := .pci }).run state
        = (.error (.collision 5), { state with descriptors := [7] }) := by
  rfl

end GuestLaunch
