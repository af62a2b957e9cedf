import GuestLaunch.Bus.Address
import GuestLaunch.Bus.AllocationError

/-!
The slots of the root PCI bus. A device either claims the slot of its own address, asks for
one, or takes the highest free slot above those that the hypervisor fills by itself.
-/

namespace GuestLaunch

/-- What happens when a device asks for an occupied slot. -/
inductive CollisionPolicy where
  /-- The request fails. -/
  | strict
  /-- The device is placed automatically. -/
  | legacy
deriving DecidableEq, Repr, Inhabited

/-- The number of slots of a bus. -/
def slotCount : Nat := 31

/-- The slots up to this one are never given out automatically. -/
def lastReservedSlot : Nat := 3

/-- Which slots of the root bus are occupied, and how collisions are handled. -/
structure RootBus where
  policy : CollisionPolicy
  occupied : Vector Bool slotCount := Vector.replicate slotCount false
deriving DecidableEq, Repr

namespace RootBus

/-- Whether a slot is occupied; there is nothing beyond the end of the bus. -/
def isUsed (bus : RootBus) (slot : Nat) : Bool := bus.occupied[slot]?.getD false

/-- The occupied slots in ascending order. -/
def usedSlots (bus : RootBus) : List Nat := (List.range slotCount).filter bus.isUsed

/-- Marks a slot as occupied. -/
def occupy (bus : RootBus) (slot : Nat) : RootBus :=
  { bus with occupied := bus.occupied.setIfInBounds slot true }

/-- On a bus without devices no slot is occupied. -/
theorem isUsed_empty (policy : CollisionPolicy) (slot : Nat)
    : ({ policy } : RootBus).isUsed slot = false := by
  by_cases inside : slot < slotCount <;> simp [isUsed, inside]

/-- An occupied slot lies on the bus, because there is nothing beyond its end. -/
theorem lt_slotCount_of_isUsed {bus : RootBus} {slot : Nat} (used : bus.isUsed slot = true)
    : slot < slotCount := by
  by_cases inside : slot < slotCount
  · exact inside
  · simp [isUsed, inside] at used

/-- Occupying a slot of the bus changes that slot and no other one. -/
theorem isUsed_occupy (bus : RootBus) (slot other : Nat) (inside : slot < slotCount)
    : (bus.occupy slot).isUsed other = (slot == other || bus.isUsed other) := by
  by_cases same : slot = other
  · subst same
    simp [isUsed, occupy, inside]
  · simp [isUsed, occupy, same]

/-- The listed slots are the occupied ones. -/
theorem mem_usedSlots (bus : RootBus) (slot : Nat)
    : slot ∈ bus.usedSlots ↔ bus.isUsed slot = true := by
  constructor
  · intro listed
    exact (List.mem_filter.mp listed).2
  · intro used
    exact List.mem_filter.mpr ⟨List.mem_range.mpr (lt_slotCount_of_isUsed used), used⟩

/-- The occupied slots are listed in strictly ascending order. -/
theorem pairwise_usedSlots (bus : RootBus) : bus.usedSlots.Pairwise (· < ·) :=
  List.pairwise_lt_range.filter _

/-- Takes one free slot of the bus. -/
def take (bus : RootBus) (slot : Nat) : Except AllocationError RootBus :=
  if slotCount ≤ slot then .error (.outOfRange slot)
  else if bus.isUsed slot then .error (.collision slot)
  else .ok (bus.occupy slot)

/-- Records the slot of a device with an address of its own. The functions of one slot
share it, so an occupied slot may be claimed again.
-/
def claim (bus : RootBus) (slot : Nat) : Except AllocationError RootBus :=
  if bus.isUsed slot then .ok bus else bus.take slot

/-- The slots that are given out automatically, in the order in which they are tried. -/
def automaticSlots : List Nat :=
  (List.range slotCount).reverse.filter (lastReservedSlot < ·)

/-- The automatic slots are those of the bus above the reserved ones. -/
theorem mem_automaticSlots (slot : Nat)
    : slot ∈ automaticSlots ↔ lastReservedSlot < slot ∧ slot < slotCount := by
  simp [automaticSlots, and_comm]

/-- Takes the highest free slot among the automatic ones. -/
def allocateAutomatic (bus : RootBus) : Except AllocationError (Nat × RootBus) :=
  match automaticSlots.find? fun slot => !bus.isUsed slot with
  | some slot => .ok (slot, bus.occupy slot)
  | none => .error (.exhausted (lastReservedSlot + 1) (slotCount - 1))

/-- The slot that a device may ask for by an address: any but the first, which belongs to the
host bridge.
-/
def requestedSlot? (address : String) : Option Nat :=
  (BusAddress.slot? address).filter fun slot => 1 ≤ slot && slot < slotCount

/-- Takes the slot that an address asks for, and any automatic slot where it asks for none.
A request for an occupied slot is treated as the policy says.
-/
def allocate (bus : RootBus) (address : String) : Except AllocationError (Nat × RootBus) :=
  match requestedSlot? address with
  | none => bus.allocateAutomatic
  | some slot =>
      if bus.isUsed slot then
        match bus.policy with
        | .strict => .error (.collision slot)
        | .legacy => bus.allocateAutomatic
      else
        .ok (slot, bus.occupy slot)

end RootBus

end GuestLaunch
