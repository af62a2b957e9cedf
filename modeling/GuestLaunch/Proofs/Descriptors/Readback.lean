import GuestLaunch.Proofs.Descriptors.Numbering
import GuestLaunch.Proofs.Options.Properties
import GuestLaunch.Proofs.Resources.AssemblyRun

/-!
Reading descriptors back from options. Only the options of network backends and of an incoming
migration name descriptors of the child; those of all other devices and settings do not.
-/

namespace GuestLaunch
open Text

/-- A place on the command line where descriptors are named. -/
inductive DescriptorPlace where
  /-- The list under a key of the network backend with an identifier. -/
  | backend (id key : String)
  /-- The source of an incoming migration. -/
  | migration
deriving DecidableEq, Repr

/-- Lists of descriptors, each with its place, in the order of the command line. -/
abbrev PlacedLists (α : Type) := List (DescriptorPlace × List α)

def entriesOf {α : Type} (lists : PlacedLists α) : List α := lists.flatMap (·.2)

theorem entriesOf_cons {α : Type} (place : DescriptorPlace) (list : List α)
    (rest : PlacedLists α)
    : entriesOf ((place, list) :: rest) = list ++ entriesOf rest :=
  rfl

theorem entriesOf_append {α : Type} (first second : PlacedLists α)
    : entriesOf (first ++ second) = entriesOf first ++ entriesOf second :=
  List.flatMap_append

/-- Reads the list of descriptors that a parameter of a network backend names. -/
def Param.placedList? (id : String) : Param → Option (DescriptorPlace × List Nat)
  | pair key text =>
      if key = NetDevice.vhostKey ∨ key = NetDevice.queueKey then
        (readNumbers? text).map fun numbers => (.backend id key, numbers)
      else
        none
  | bare _ => none

/-- Reads the descriptor that the source of a migration names. -/
def readSource? (uri : String) : Option Nat :=
  match uri.toList with
  | 'f' :: 'd' :: ':' :: digits => Numeral.natural? 10 UInt32.size digits
  | _ => none

/-- Reads the list of descriptors that a parameter of an incoming migration names. -/
def Param.sourceList? : Param → Option (DescriptorPlace × List Nat)
  | bare uri => (readSource? uri).map fun number => (.migration, [number])
  | pair _ _ => none

/-- Reads the lists of descriptors that an option names. -/
def LaunchOption.placedLists : LaunchOption → PlacedLists Nat
  | setting .netdev params =>
      let id := (params.findSome? (Param.valueUnder? "id")).getD ""
      params.filterMap (Param.placedList? id)
  | setting .incoming params => params.filterMap Param.sourceList?
  | _ => []

/-- Reads the lists of descriptors that options name, in their order. -/
def readLists (options : List LaunchOption) : PlacedLists Nat :=
  options.flatMap LaunchOption.placedLists

theorem readLists_append (first second : List LaunchOption)
    : readLists (first ++ second) = readLists first ++ readLists second :=
  List.flatMap_append

-----------------------------------------------------------------------------------------
-- Options that name no descriptors
-----------------------------------------------------------------------------------------

/-- Whether the options of a flag name no descriptors, which those of all but two do. -/
def Flag.isSilent : Flag → Bool
  | netdev | incoming => false
  | _ => true

/-- Whether an option names no descriptors, because of its flag. -/
def LaunchOption.isSilent : LaunchOption → Bool
  | setting flag _ => flag.isSilent
  | toggle _ => true

/-- Options none of which names descriptors. -/
def Silent (options : List LaunchOption) : Prop := ∀ option ∈ options, option.isSilent = true

theorem Silent.readLists_eq_nil {options : List LaunchOption} (h : Silent options)
    : readLists options = [] := by
  apply List.flatMap_eq_nil_iff.mpr
  intro option member
  have silent := h option member
  cases option with
  | toggle switch => rfl
  | setting flag params =>
      cases flag with
      | netdev | incoming => cases silent
      | _ => rfl

/-- Options name no descriptors where none of the flags that they use does. -/
theorem UsesOnly.silent {flags : List Flag} {options : List LaunchOption}
    (h : UsesOnly flags options) (every : ∀ flag ∈ flags, flag.isSilent = true)
    : Silent options := by
  intro option member
  cases option with
  | toggle switch => rfl
  | setting flag params => exact every flag (h _ member flag rfl)

theorem silent_flatMap {α : Type} {items : List α} {render : α → List LaunchOption}
    (each : ∀ item ∈ items, Silent (render item))
    : Silent (items.flatMap render) := by
  intro option member
  obtain ⟨item, listed, own⟩ := List.mem_flatMap.mp member
  exact each item listed option own

/-- No stage that uses up nothing names descriptors, by the flags of the stage. -/
theorem Stage.silent_settings (stage : Stage) (config : Config) (host : Host)
    : Silent (stage.settings config host) := by
  refine (stage.usesOnly_settings config host).silent ?_
  cases stage <;> decide

/-- The card of a network device names no descriptors: its backend does. -/
theorem NetDevice.silent_cardOptionsFor (device : NetDevice) (placement : Placement)
    (grants : List Grant)
    : Silent (device.cardOptionsFor placement grants) :=
  (device.usesOnly_cardOptionsFor placement grants).silent (by decide)

/-- Only network devices name descriptors, by the flags of the kind of the device. -/
theorem Device.silent_optionsFor {device : Device} (other : ∀ card, device ≠ .net card)
    (placement : Placement) (architecture : Architecture) (grants : List Grant)
    : Silent (device.optionsFor placement architecture grants) := by
  refine (device.usesOnly_optionsFor placement architecture grants).silent ?_
  cases device with
  | net card => exact absurd rfl (other card)
  | _ => simp [flags, Flag.isSilent]

end GuestLaunch
