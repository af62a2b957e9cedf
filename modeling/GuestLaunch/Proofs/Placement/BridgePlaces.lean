import GuestLaunch.Proofs.Addresses.SlotNumbers
import GuestLaunch.Proofs.Options.Properties
import GuestLaunch.Proofs.Placement.DeviceSlots
import GuestLaunch.Proofs.Resources.PlanRequests

/-!
Where a bridge on the root bus sits. It claims the slot before the function of its address, but its
slot is rendered only where the address is one number. So a bridge with a function in its address
occupies a slot that its options do not name, and is put into some other slot by the hypervisor.
-/

namespace GuestLaunch
open Text

/-- The slots that the devices of options are put into, read as hexadecimal numbers. -/
def renderedSlots (options : List LaunchOption) : List Nat :=
  (propertyValues .device "addr" options).filterMap fun text =>
    Numeral.natural? 16 UInt64.size text.toList

namespace Bridge

/-- The slot of the root bus that a bridge claims. -/
def claimedSlot? (bridge : Bridge) : Option Nat := rootSlotOf? bridge.bus bridge.address

/-- Whether a bridge claims the slots that its options name, and no other one. -/
def SitsWhereItClaims (bridge : Bridge) (options : List LaunchOption) : Prop :=
  ∀ slot, bridge.claimedSlot? = some slot ↔ slot ∈ renderedSlots options

/-- The place of a bridge on the root bus that has been rendered. -/
structure RenderedPlace (bridge : Bridge) (state : RunState) (options : List LaunchOption)
    (final : RunState) : Prop where
  /-- The slot that the bridge claims is occupied now, besides those that were so before. -/
  occupied
    : ∀ slot,
        slot ∈ final.bus.usedSlots
        ↔ slot ∈ state.bus.usedSlots ∨ bridge.claimedSlot? = some slot
  /-- Its options name the slot that its address is as a whole, as a hexadecimal number. -/
  rendered
    : propertyValues .device "addr" options
      = (BusAddress.slot? bridge.address).toList.map hexadecimal
  /-- It never sits where it does not claim. -/
  claimed : ∀ slot ∈ renderedSlots options, bridge.claimedSlot? = some slot
  /-- It claims where it does not sit if its address has a slot and a function. -/
  agrees
    : bridge.SitsWhereItClaims options
      ↔ (BusAddress.hasFunction bridge.address = true → bridge.claimedSlot? = none)

-----------------------------------------------------------------------------------------
-- The slot in the options
-----------------------------------------------------------------------------------------

theorem values_optionsFor (bridge : Bridge) (placement : Placement)
    : propertyValues .device "addr" (bridge.optionsFor placement)
      = (BusAddress.slot? bridge.address).toList.map hexadecimal := by
  have identity : valuesUnder "addr" bridge.identityParams = [] := by
    unfold identityParams
    cases bridge.type <;> simp
  have address : valuesUnder "addr" bridge.addressParams
      = (BusAddress.slot? bridge.address).toList.map hexadecimal := by
    unfold addressParams
    cases BusAddress.slot? bridge.address <;> simp
  simp [optionsFor, params, identity, address]

/-- The slot in the options is read back as the number that the address is as a whole. -/
theorem mem_renderedSlots_optionsFor (bridge : Bridge) (placement : Placement) (slot : Nat)
    : slot ∈ renderedSlots (bridge.optionsFor placement)
      ↔ BusAddress.slot? bridge.address = some slot := by
  rw [renderedSlots, values_optionsFor]
  cases named : BusAddress.slot? bridge.address with
  | none => simp
  | some own =>
      have read : Numeral.natural? 16 UInt64.size (hexadecimal own).toList = some own := by
        rw [hexadecimal, String.toList_ofList]
        exact Numeral.natural?_write_base (by decide) (by decide) (BusAddress.number?_lt named)
      simp [read, eq_comm]

/-- On the root bus a bridge claims the slot before the function of its address. -/
theorem claimedSlot?_of_root {bridge : Bridge} (root : isRootBus bridge.bus = true)
    : bridge.claimedSlot? = BusAddress.slotBeforeFunction? bridge.address := by
  rw [claimedSlot?, rootSlotOf?, if_pos root]

/-- A bridge on the root bus that is rendered sits where it claims, unless its address has a
function behind the slot. Then it claims the slot and is put nowhere.
-/
theorem renderedPlace_of_render {bridge : Bridge} (root : isRootBus bridge.bus = true)
    {placement : Placement} {state final : RunState} {options : List LaunchOption}
    (rendered : (bridge.render placement).run state = (.ok options, final))
    : bridge.RenderedPlace state options final := by
  have device : ((Device.bridge bridge).render placement .x86_64).run state
      = (.ok options, final) :=
    rendered
  obtain ⟨grants, granted, own⟩ := Device.exists_optionsFor_of_render device
  obtain rfl : options = bridge.optionsFor placement := own
  have claim := claimedSlot?_of_root root
  have whole := BusAddress.slot?_eq bridge.address
  constructor
  case occupied =>
    intro slot
    have placed := (Device.bridge bridge).placedAddresses_requests placement.transport
    rw [RootBus.mem_usedSlots, RootBus.mem_usedSlots, granted.isUsed_iff,
      granted.slots_eq_nil placed, Device.claimedSlots_requests, Option.mem_toList]
    simp [Device.rootSlot?, claimedSlot?]
  case rendered => exact bridge.values_optionsFor placement
  case claimed =>
    intro slot member
    rw [mem_renderedSlots_optionsFor, whole] at member
    exact claim.trans (Option.ite_none_left_eq_some.mp member).2
  case agrees =>
    unfold SitsWhereItClaims
    simp only [mem_renderedSlots_optionsFor, whole, claim]
    cases function : BusAddress.hasFunction bridge.address with
    | false => simp
    | true => simp [Option.eq_none_iff_forall_ne_some]

/-- A bridge with an address that is one number sits where it claims. -/
theorem renderedPlace_numberedBridge
    : let bridge : Bridge := { bus := "pci.0", id := "br0", address := "bus/0x1e" }
      let rendered := (bridge.render { transport := .pci }).run (.initial .strict)
      let options := bridge.optionsFor { transport := .pci }
      isRootBus bridge.bus = true
        ∧ rendered.1.toOption = some options
        ∧ bridge.RenderedPlace (.initial .strict) options rendered.2
        ∧ bridge.claimedSlot? = some 30
        ∧ renderedSlots options = [30] := by
  intro bridge rendered options
  have root : isRootBus bridge.bus = true := by decide
  have success : rendered.1.toOption = some options := by decide +kernel
  exact ⟨root, success, renderedPlace_of_render root (Render.run_of_toOption success),
    by decide +kernel, by decide +kernel⟩

/-- A bridge at a function of a slot. -/
def functionBridge : Bridge where
  bus := "pci.0"
  id := "br0"
  address := "0x5.0x1"

/-- The bridge claims its slot, which is occupied from then on, but its options name no slot. -/
theorem not_sitsWhereItClaims_functionBridge
    : let rendered := (functionBridge.render { transport := .pci }).run (.initial .strict)
      isRootBus functionBridge.bus = true
        ∧ functionBridge.claimedSlot? = some 5
        ∧ rendered.2.bus.usedSlots = [5]
        ∧ rendered.1.toOption.map renderedSlots = some []
        ∧ ∀ options,
            rendered.1.toOption = some options → ¬functionBridge.SitsWhereItClaims options := by
  intro rendered
  have claimed : functionBridge.claimedSlot? = some 5 := by decide +kernel
  have nowhere : rendered.1.toOption.map renderedSlots = some [] := by decide +kernel
  refine ⟨by decide, claimed, by decide +kernel, nowhere, ?_⟩
  intro options own sits
  have listed := (sits 5).mp claimed
  obtain ⟨_, same, none⟩ := Option.map_eq_some_iff.mp nowhere
  obtain rfl : options = _ := Option.some.inj (own.symm.trans same)
  rw [none] at listed
  cases listed

end Bridge

end GuestLaunch
