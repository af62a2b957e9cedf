import GuestLaunch.Bus.BootIndex
import GuestLaunch.Bus.IndexRegistry
import GuestLaunch.Bus.RootBus

/-!
What one run of the assembly uses up: slots of the root bus, boot indices, and descriptors
that the hypervisor inherits. A rendering step may fail; what it did before stays done.
-/

namespace GuestLaunch

/-- The resources that have been given out in a run. -/
structure RunState where
  bus : RootBus
  indices : IndexRegistry := {}
  /-- The inherited descriptors of the host, in the order of their numbers in the child. -/
  descriptors : List Int32 := []
deriving DecidableEq, Repr

/-- The state at the start of a run. -/
def RunState.initial (policy : CollisionPolicy) : RunState := { bus := { policy } }

/-- A step that gives out resources and may fail. -/
abbrev Render := ExceptT AllocationError (StateM RunState)

/-- The number that the child sees for the first inherited descriptor. -/
def firstChildDescriptor : Nat := 3

/-- The greatest number of a descriptor in the child. -/
def lastChildDescriptor : Nat := UInt32.size - 1

/-- The number that the child sees for the descriptor at a position of the table. -/
def childDescriptor (position : Nat) : Nat :=
  min (firstChildDescriptor + position) lastChildDescriptor

/-- The root bus of machines with PCI Express. -/
def pcieRootBus : String := "pcie.0"

/-- The root bus of machines with conventional PCI. -/
def pciRootBus : String := "pci.0"

/-- Whether a device on a bus of this name sits on the root bus, which is meant where no bus
is named.
-/
def isRootBus (bus : String) : Bool := bus.isEmpty || bus == pcieRootBus || bus == pciRootBus

namespace Render

/-- A step on the root bus alone. -/
def onBus {α : Type} (step : RootBus → Except AllocationError (α × RootBus)) : Render α := do
  let state ← get
  match step state.bus with
  | .error cause => throw cause
  | .ok (result, bus) => do
      set { state with bus }
      pure result

/-- A step on the index registry alone. -/
def onIndices {α : Type} (step : IndexRegistry → Except AllocationError (α × IndexRegistry))
    : Render α := do
  let state ← get
  match step state.indices with
  | .error cause => throw cause
  | .ok (result, indices) => do
      set { state with indices }
      pure result

/-- Takes a slot of the root bus for a device with an address that may be empty. -/
def allocateSlot (address : String) : Render Nat := onBus fun bus => bus.allocate address

/-- Claims the slot of a device with an address of its own, if it sits on the root bus and its
address names a slot.
-/
def claimRootSlot (bus address : String) : Render Unit :=
  match BusAddress.slotBeforeFunction? address with
  | some slot =>
      if isRootBus bus then onBus fun root => (root.claim slot).map fun claimed => ((), claimed)
      else pure ()
  | none => pure ()

/-- Records an explicit boot index. -/
def reserveBootIndex (index : UInt32) : Render Unit :=
  onIndices fun indices =>
    (indices.reserve IndexRegistry.bootCategory index).map fun reserved => ((), reserved)

/-- The boot index to be rendered for a configured one. An explicit index is rendered as it is
written; it has been recorded before any device is rendered.
-/
def resolveBootIndex : Option String → Render (Option String)
  | none => pure none
  | some configured =>
      if configured.isEmpty then pure none
      else if configured = BootIndex.automatic then do
        let index ← onIndices fun indices => indices.next IndexRegistry.bootCategory
        pure (some (Text.decimal index.toNat))
      else
        pure (some configured)

/-- Appends descriptors to the table, and gives the numbers that the child sees for them. -/
def inherit (descriptors : List Int32) : Render (List Nat) := do
  let state ← get
  set { state with descriptors := state.descriptors ++ descriptors }
  pure ((List.range' state.descriptors.length descriptors.length).map childDescriptor)

end Render

end GuestLaunch
