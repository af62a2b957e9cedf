import GuestLaunch.Proofs.Options.Properties
import GuestLaunch.Proofs.Placement.PortRanges

/-!
Multifunction marks. A root port that is the only function of its slot says so, and a function after
the first one follows the setting of its slot. Which of the two a port is depends on its address
behind the bus path, but the mark is chosen by the address as a whole.
-/

namespace GuestLaunch
open Text

namespace BusAddress

/-- The bus path of an address: its text up to the last slash. -/
def busPath (address : String) : List Char :=
  (address.toList.reverse.dropWhile (· != '/')).reverse

theorem busPath_append_afterLast (address : String)
    : busPath address ++ afterLast '/' address.toList = address.toList := by
  rw [busPath, afterLast, ← List.reverse_append, List.takeWhile_append_dropWhile,
    List.reverse_reverse]

theorem mem_iff_busPath_or_afterLast (symbol : Char) (address : String)
    : symbol ∈ address.toList
      ↔ symbol ∈ busPath address ∨ symbol ∈ afterLast '/' address.toList := by
  rw [← List.mem_append, busPath_append_afterLast]

/-- An address with a function behind it has one, whatever it is. -/
theorem hasFunction_append {function : String} (pathless : '/' ∉ function.toList)
    (address : String)
    : hasFunction (address ++ "." ++ function) = true := by
  have symbols : (address ++ "." ++ function).toList
      = address.toList ++ '.' :: function.toList := by
    simp
  have absent : '/' ∉ '.' :: function.toList := by simp [pathless]
  rw [hasFunction, symbols, afterLast_append absent]
  simp

end BusAddress

namespace RootPort

/-- The multifunction mark of a port follows the function in its address. -/
structure MarkFollowsFunction (port : RootPort) (options : List LaunchOption) : Prop where
  on : "on" ∈ propertyValues .device "multifunction" options ↔ port.multifunction = true
  off
    : "off" ∈ propertyValues .device "multifunction" options
      ↔ port.multifunction = false
        ∧ BusAddress.hasFunction port.effectiveAddress = false

/-- The multifunction mark in the options of a port. -/
structure RenderedMark (port : RootPort) (options : List LaunchOption) : Prop where
  /-- A port that is not marked on is marked off, unless there is a dot in its address. -/
  values
    : propertyValues .device "multifunction" options
      = if port.multifunction then ["on"]
        else if '.' ∈ port.effectiveAddress.toList then []
        else ["off"]
  /-- The mark follows the function, unless the dot stands in the bus path of an address without a
  function.
  -/
  follows
    : port.MarkFollowsFunction options
      ↔ (port.multifunction = false
          → BusAddress.hasFunction port.effectiveAddress = false
          → '.' ∉ BusAddress.busPath port.effectiveAddress)

theorem markValues_optionsFor (port : RootPort) (placement : Placement)
    : propertyValues .device "multifunction" (port.optionsFor placement)
      = if port.multifunction then ["on"]
        else if '.' ∈ port.effectiveAddress.toList then []
        else ["off"] := by
  simp [optionsFor, params, multifunctionParams, reserveParams]

/-- The mark follows the function, unless a dot in the bus path is taken for one. -/
theorem markFollowsFunction_optionsFor_iff (port : RootPort) (placement : Placement)
    : port.MarkFollowsFunction (port.optionsFor placement)
      ↔ (port.multifunction = false
          → BusAddress.hasFunction port.effectiveAddress = false
          → '.' ∉ BusAddress.busPath port.effectiveAddress) := by
  have function : BusAddress.hasFunction port.effectiveAddress = false
      ↔ '.' ∉ BusAddress.afterLast '/' port.effectiveAddress.toList := by
    simp [BusAddress.hasFunction]
  have on : "on" ∈ propertyValues .device "multifunction" (port.optionsFor placement)
      ↔ port.multifunction = true := by
    rw [markValues_optionsFor]
    cases port.multifunction <;> by_cases dot : '.' ∈ port.effectiveAddress.toList <;> simp [dot]
  have off : "off" ∈ propertyValues .device "multifunction" (port.optionsFor placement)
      ↔ port.multifunction = false
        ∧ '.' ∉ BusAddress.busPath port.effectiveAddress
        ∧ '.' ∉ BusAddress.afterLast '/' port.effectiveAddress.toList := by
    rw [markValues_optionsFor, ← not_or, ← BusAddress.mem_iff_busPath_or_afterLast]
    cases port.multifunction <;> by_cases dot : '.' ∈ port.effectiveAddress.toList <;> simp [dot]
  constructor
  · intro follows unmarked plain
    exact (off.mp (follows.off.mpr ⟨unmarked, plain⟩)).2.1
  · intro clear
    refine ⟨on, ?_⟩
    rw [off, function]
    constructor
    · rintro ⟨unmarked, _, last⟩
      exact ⟨unmarked, last⟩
    · rintro ⟨unmarked, last⟩
      exact ⟨unmarked, clear unmarked (function.mpr last), last⟩

/-- The ports of a range follow their functions: all their addresses have one. -/
theorem markFollowsFunction_ofFunction (family bus base : String) (function : Nat)
    (placement : Placement)
    : (ofFunction family bus base function).MarkFollowsFunction
        ((ofFunction family bus base function).optionsFor placement) := by
  have named : BusAddress.hasFunction (ofFunction family bus base function).effectiveAddress
      = true := by
    rw [effectiveAddress_ofFunction, address_ofFunction]
    exact BusAddress.hasFunction_append (slash_not_mem_function function) base
  refine (markFollowsFunction_optionsFor_iff _ placement).mpr fun _ plain => ?_
  rw [named] at plain
  cases plain

/-- A port that is rendered is marked by the dots in its address, wherever they stand. -/
theorem renderedMark_of_render {port : RootPort} {placement : Placement}
    {state final : RunState} {options : List LaunchOption}
    (rendered : (port.render placement).run state = (.ok options, final))
    : port.RenderedMark options := by
  have device : ((Device.rootPort port).render placement .x86_64).run state
      = (.ok options, final) :=
    rendered
  obtain ⟨grants, _, own⟩ := Device.exists_optionsFor_of_render device
  obtain rfl : options = port.optionsFor placement := own
  exact ⟨port.markValues_optionsFor placement, port.markFollowsFunction_optionsFor_iff placement⟩

/-- A port behind a bus path without a dot is marked by its function. -/
theorem renderedMark_dotlessPort
    : let port : RootPort := { id := "rp0", address := "bus/0x5" }
      let rendered := (port.render { transport := .pci }).run (.initial .strict)
      let options := port.optionsFor { transport := .pci }
      rendered.1.toOption = some options
        ∧ port.RenderedMark options
        ∧ port.MarkFollowsFunction options
        ∧ propertyValues .device "multifunction" options = ["off"] := by
  intro port rendered options
  have success : rendered.1.toOption = some options := by decide +kernel
  have mark : port.RenderedMark options :=
    renderedMark_of_render (Render.run_of_toOption success)
  exact ⟨success, mark, mark.follows.mpr (by decide +kernel), by decide +kernel⟩

/-- A port behind the path of the root bus, without a function. -/
def dottedPort : RootPort where
  id := "rp0"
  address := "pcie.0/0x5"

/-- The port is valid and names no function, and yet it is not marked. -/
theorem not_markFollowsFunction_dottedPort
    : let rendered := (dottedPort.render { transport := .pci }).run (.initial .strict)
      dottedPort.problem? = none
        ∧ BusAddress.hasFunction dottedPort.effectiveAddress = false
        ∧ ∃ options,
            rendered.1.toOption = some options
            ∧ propertyValues .device "multifunction" options = []
            ∧ ¬dottedPort.MarkFollowsFunction options := by
  intro rendered
  have functionless : BusAddress.hasFunction dottedPort.effectiveAddress = false := by
    decide +kernel
  have unmarked : propertyValues .device "multifunction"
      (dottedPort.optionsFor { transport := .pci }) = [] := by
    decide +kernel
  refine ⟨by decide +kernel, functionless, _, by decide +kernel, unmarked, ?_⟩
  intro follows
  have off := follows.off.mpr ⟨rfl, functionless⟩
  rw [unmarked] at off
  cases off

end RootPort

end GuestLaunch
