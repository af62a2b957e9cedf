import GuestLaunch.Proofs.DeviceOrder.Buses
import GuestLaunch.Proofs.Placement.SlotMachine
import GuestLaunch.Proofs.RunGrowth.AppendOnly

/-!
Devices on other buses than the root bus. A root port or bridge there claims nothing, but every
other device that asks for a slot asks the root bus for it, whatever bus it names. So two devices
with the same address collide there even if they are on different buses.
-/

namespace GuestLaunch

/-- The device with another bus, if it has a bus field. -/
def Device.onBus (bus : String) : Device → Device
  | rootPort device => .rootPort { device with bus }
  | bridge device => .bridge { device with bus }
  | scsi device => .scsi { device with bus }
  | ide device => .ide { device with bus }
  | usb device => .usb { device with bus }
  | disk device => .disk { device with bus }
  | char device => .char { device with bus }
  | net device => .net { device with bus }
  | entropy device => .entropy { device with bus }
  | device => device

/-- Whether a device claims the slot of its address rather than asks for one. -/
def Device.isClaimant : Device → Bool
  | rootPort _ | bridge _ => true
  | _ => false

/-- Rendering a device leaves the slots of the root bus as they are, whether or not it succeeds. -/
def LeavesSlots (device : Device) (placement : Placement) (architecture : Architecture)
    (state : RunState) : Prop :=
  (state.after (.render device placement architecture)).bus.usedSlots = state.bus.usedSlots

/-- The slot that an address asks for is occupied, and no device is rendered with this address. -/
structure RefusesAddress (state : RunState) (address : String) (slot : Nat) : Prop where
  collision : state.bus.allocate address = .error (.collision slot)
  unrendered
    : ∀ (device : Device) (placement : Placement) (architecture : Architecture),
        device.slotAddress? placement.transport = some address
        → ∀ options after,
            (device.render placement architecture).run state ≠ (.ok options, after)

/-- What a device on another bus does to the slots of the root bus. -/
structure NestedSlotUse (device : Device) (placement : Placement) (architecture : Architecture)
    (state : RunState) : Prop where
  /-- A root port or bridge is rendered in every state, and does nothing to it. -/
  claimant
    : device.isClaimant = true
      → ∃ options, (device.render placement architecture).run state = (.ok options, state)
  /-- A device that asks for no slot leaves the slots alone. -/
  unplaced
    : device.slotAddress? placement.transport = none
      → LeavesSlots device placement architecture state
  /-- A device that asks for a slot takes the one that the root bus gives for its address. -/
  placed
    : ∀ address options final,
        device.slotAddress? placement.transport = some address
        → (device.render placement architecture).run state = (.ok options, final)
        → (∃ slot, state.bus.allocate address = .ok (slot, final.bus))
          ∧ ¬LeavesSlots device placement architecture state
  /-- It does so on any bus: the state after it is the same, whether or not it succeeds. -/
  anywhere
    : ∀ address bus,
        device.slotAddress? placement.transport = some address
        → state.after (.render (device.onBus bus) placement architecture)
          = state.after (.render device placement architecture)
  /-- After it, its address is refused to all devices, whatever their buses are. -/
  collides
    : ∀ address slot options final later,
        device.slotAddress? placement.transport = some address
        → AsksFor address slot
        → (device.render placement architecture).run state = (.ok options, final)
        → final.Extends later
        → later.bus.policy = .strict
        → RefusesAddress later address slot

-----------------------------------------------------------------------------------------
-- Allocations for one address
-----------------------------------------------------------------------------------------

/-- After an allocation the slot that its address asks for is occupied, by this allocation or
before it.
-/
theorem RootBus.isUsed_of_allocate {bus after : RootBus} {address : String} {given slot : Nat}
    (allocated : bus.allocate address = .ok (given, after)) (asked : AsksFor address slot)
    : after.isUsed slot = true := by
  obtain ⟨_, ⟨_, inside⟩, rfl⟩ := allocate_ok allocated
  rw [isUsed_occupy bus given slot inside]
  by_cases taken : slot ∈ bus.usedSet
  · rw [mem_usedSet.mp taken, Bool.or_true]
  · have own := allocate_of_free asked taken
    rw [allocated] at own
    obtain ⟨rfl, _⟩ := Prod.mk.inj (Except.ok.inj own)
    simp

/-- A device that is rendered with an address has been given a slot for it. -/
theorem Device.exists_allocate_of_render {device : Device} {placement : Placement}
    {architecture : Architecture} {state final : RunState} {options : List LaunchOption}
    {address : String} (asks : device.slotAddress? placement.transport = some address)
    (rendered : (device.render placement architecture).run state = (.ok options, final))
    : ∃ slot, state.bus.allocate address = .ok (slot, final.bus) := by
  obtain ⟨_, granted, _⟩ := exists_optionsFor_of_render rendered
  obtain ⟨slot, allocated, _⟩ := granted.allocate_of_slotAddress? asks
  exact ⟨slot, allocated⟩

theorem refusesAddress_of_isUsed {state : RunState} {address : String} {slot : Nat}
    (asked : AsksFor address slot) (used : state.bus.isUsed slot = true)
    (strict : state.bus.policy = .strict)
    : RefusesAddress state address slot := by
  have collision : state.bus.allocate address = .error (.collision slot) := by
    rw [RootBus.allocate_of_taken asked (RootBus.mem_usedSet.mpr used), strict]
  refine ⟨collision, ?_⟩
  intro device placement architecture asks options after rendered
  obtain ⟨_, allocated⟩ := Device.exists_allocate_of_render asks rendered
  rw [collision] at allocated
  cases allocated

-----------------------------------------------------------------------------------------
-- Devices on other buses
-----------------------------------------------------------------------------------------

namespace Device
variable {device : Device} {bus : String}

/-- A device on another bus claims nothing, by the kind of the device. -/
theorem rootSlot?_of_nested (named : device.bus? = some bus) (nested : isRootBus bus = false)
    : device.rootSlot? = none := by
  have off (address : String) : rootSlotOf? bus address = none := by
    rw [rootSlotOf?, nested]
    rfl
  cases device with
  | rootPort | bridge =>
      cases named
      exact off _
  | _ => rfl

/-- A root port or bridge on another bus asks for nothing, by the kind of the device. -/
theorem requests_of_nested (named : device.bus? = some bus) (nested : isRootBus bus = false)
    (claimant : device.isClaimant = true) (transport : Transport)
    : device.requests transport = [] := by
  have unclaimed := rootSlot?_of_nested named nested
  cases device with
  | rootPort | bridge =>
      have asked : rootSlotOf? _ _ = none := unclaimed
      show claimRequests _ _ = []
      rw [claimRequests, asked]
      rfl
  | _ => cases claimant

/-- What a device that is placed asks for does not depend on its bus, by the kind of the
device.
-/
theorem requests_onBus {transport : Transport} {address : String}
    (asks : device.slotAddress? transport = some address) (bus : String)
    : (device.onBus bus).requests transport = device.requests transport := by
  cases device with
  | rootPort | bridge => cases asks
  | _ => rfl

end Device

/-- On another bus than the root bus, root ports and bridges leave the root bus alone, and so do
devices that ask for no slot. All other devices take slots of the root bus as they do on it.
-/
theorem nestedSlotUse_of_bus {device : Device} {bus : String}
    (named : device.bus? = some bus) (nested : isRootBus bus = false) (placement : Placement)
    (architecture : Architecture) (state : RunState)
    : NestedSlotUse device placement architecture state := by
  constructor
  case claimant =>
    intro claimant
    have silent := Device.requests_of_nested named nested claimant placement.transport
    refine ⟨device.optionsFor placement architecture [], ?_⟩
    rw [device.render_eq, silent]
    rfl
  case unplaced =>
    intro unplaced
    obtain ⟨claimed, placed⟩ :=
      Device.slots_requests_of_unplaced (Device.rootSlot?_of_nested named nested) unplaced
    rw [LeavesSlots, state.after_eq, RunStep.requests, bus_serveAll_eq claimed placed]
  case placed =>
    intro address options final asks rendered
    refine ⟨Device.exists_allocate_of_render asks rendered, ?_⟩
    obtain ⟨grants, granted, _⟩ := Device.exists_optionsFor_of_render rendered
    have placed : placedAddresses (device.requests placement.transport) ≠ [] := by
      rw [(Device.slots_requests_of_slotAddress? asks).2]
      exact List.cons_ne_nil _ _
    have after : state.after (.render device placement architecture) = final := by
      rw [state.after_eq, RunStep.requests, granted.serve]
    rw [LeavesSlots, after]
    exact granted.usedSlots_ne placed
  case anywhere =>
    intro address bus asks
    rw [state.after_eq, state.after_eq, RunStep.requests, RunStep.requests,
      Device.requests_onBus asks]
  case collides =>
    intro address slot options final later asks asked rendered extended strict
    obtain ⟨_, allocated⟩ := Device.exists_allocate_of_render asks rendered
    have used := (RootBus.mem_usedSlots _ _).mpr (RootBus.isUsed_of_allocate allocated asked)
    exact refusesAddress_of_isUsed asked ((RootBus.mem_usedSlots _ _).mp (extended.slots used))
      strict

/-- A network card behind a root port takes the slot of its address on the root bus, which is then
refused to a controller behind another one.
-/
theorem nestedSlotUse_portedCard
    : let card : Device :=
        .net { id := "n0", driver := "virtio-net", bus := "rp0", address := "0x5" }
      let controller : Device := .scsi { id := "scsi0", bus := "rp1", address := "0x5" }
      let placement : Placement := { transport := .pci }
      let state : RunState := .initial .strict
      let rendered := (card.render placement .x86_64).run state
      card.bus? = some "rp0"
        ∧ isRootBus "rp0" = false
        ∧ NestedSlotUse card placement .x86_64 state
        ∧ rendered.1.toOption.isSome = true
        ∧ rendered.2.bus.usedSlots = [5]
        ∧ ∀ options after,
            (controller.render placement .x86_64).run rendered.2 ≠ (.ok options, after) := by
  intro card controller placement state rendered
  have nested : isRootBus "rp0" = false := by decide
  have use : NestedSlotUse card placement .x86_64 state :=
    nestedSlotUse_of_bus rfl nested placement .x86_64 state
  have success : rendered.1.toOption.isSome = true := by decide +kernel
  obtain ⟨_, gives⟩ := Option.isSome_iff_exists.mp success
  have asked : AsksFor "0x5" 5 := ⟨by decide +kernel, by decide, by decide⟩
  have refused : RefusesAddress rendered.2 "0x5" 5 :=
    use.collides "0x5" 5 _ _ rendered.2 (by decide +kernel) asked
      (Render.run_of_toOption gives) (.refl _) (by decide +kernel)
  exact ⟨rfl, nested, use, success, by decide +kernel,
    refused.unrendered controller placement .x86_64 rfl⟩

/-- Two controllers behind different root ports, at the same address. -/
def firstController : PciController where
  id := "sata0"
  driver := "ich9-ahci"
  bus := "rp0"
  address := "0x5"

def secondController : PciController where
  id := "sata1"
  driver := "ich9-ahci"
  bus := "rp1"
  address := "0x5"

/-- The first one takes a slot of the root bus, and the second one collides with it there. -/
theorem not_leavesSlots_nestedControllers
    : let placement : Placement := { transport := .pci }
      let state : RunState := .initial .strict
      let after := state.after (.render (.ide firstController) placement .x86_64)
      isRootBus firstController.bus = false
        ∧ isRootBus secondController.bus = false
        ∧ firstController.bus ≠ secondController.bus
        ∧ after.bus.usedSlots = [5]
        ∧ ¬LeavesSlots (.ide firstController) placement .x86_64 state
        ∧ (((Device.ide secondController).render placement .x86_64).run after).1
          = .error (.collision 5) := by
  intro placement state after
  have free : state.bus.usedSlots = [] := by decide
  have taken : after.bus.usedSlots = [5] := by decide +kernel
  refine ⟨by decide, by decide, by decide, taken, ?_, by rfl⟩
  intro same
  have equal : after.bus.usedSlots = state.bus.usedSlots := same
  rw [taken, free] at equal
  cases equal

end GuestLaunch
