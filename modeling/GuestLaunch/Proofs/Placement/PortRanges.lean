import GuestLaunch.Proofs.Addresses.Functions
import GuestLaunch.Proofs.Resources.Answers
import GuestLaunch.Proofs.Resources.PlanRequests
import Mathlib.Data.List.Nodup

/-!
Root ports for the functions of one slot. They are told apart by their functions, and all of them
name the slot of the address that they are made from. So the first one that is rendered on the root
bus claims the slot, and the others find it occupied and share it.
-/

namespace GuestLaunch
open Text

/-- Root ports for the first functions of a slot. -/
structure IsPortRange (bus base : String) (count : Nat) (ports : List RootPort) : Prop where
  length : ports.length = count
  bus : ∀ port ∈ ports, port.bus = bus
  valid : ∀ port ∈ ports, port.problem? = none
  ids : (ports.map RootPort.id).Nodup
  addresses : (ports.map RootPort.address).Nodup
  /-- Exactly the first port has the mark of a slot with several functions. -/
  marks
    : ∀ position port, ports[position]? = some port → (port.multifunction = true ↔ position = 0)
  slot
    : ∀ port ∈ ports,
        BusAddress.slotBeforeFunction? port.address = BusAddress.slotBeforeFunction? base

/-- A root port with its transport. -/
def RootPort.planned (transport : Transport) (port : RootPort) : PlannedDevice where
  device := .rootPort port
  transport := transport

/-- Renders ports in their order, as a plan of devices. -/
def renderPorts (architecture : Architecture) (placement : Placement) (ports : List RootPort)
    : Render (List (List LaunchOption)) :=
  renderPlan architecture placement.iommuPlatform
    (ports.map (RootPort.planned placement.transport))

/-- What rendering ports of a slot in their order does to the root bus, from any state. -/
structure SharesSlot (base : String) (ports : List RootPort) (architecture : Architecture)
    (placement : Placement) (state : RunState) : Prop where
  /-- A slot of the bus is occupied afterwards, and nothing else has changed. -/
  inside
    : ∀ slot,
        BusAddress.slotBeforeFunction? base = some slot
        → slot < slotCount
        → (renderPorts architecture placement ports).run state
            = (.ok (ports.map fun port => port.optionsFor placement),
                { state with bus := state.bus.occupy slot })
          ∧ ∀ other,
              other ∈ (state.bus.occupy slot).usedSlots
              ↔ other ∈ state.bus.usedSlots ∨ other = slot
  unnamed
    : BusAddress.slotBeforeFunction? base = none
      → (renderPorts architecture placement ports).run state
        = (.ok (ports.map fun port => port.optionsFor placement), state)
  /-- Beyond the end of the bus the first port fails, and changes nothing. -/
  beyond
    : ∀ slot,
        BusAddress.slotBeforeFunction? base = some slot
        → slotCount ≤ slot
        → (∃ first,
              ports.head? = some first
              ∧ (first.render placement).run state = (.error (.outOfRange slot), state))
          ∧ (renderPorts architecture placement ports).run state
            = (.error (.outOfRange slot), state)

-----------------------------------------------------------------------------------------
-- The ports of a range
-----------------------------------------------------------------------------------------

namespace RootPort
variable {family bus base : String}

theorem problem?_ofFunction (family bus base : String) (function : Nat)
    : (ofFunction family bus base function).problem? = none := by
  have named : (ofFunction family bus base function).id.isEmpty = false := by
    simp [ofFunction]
  simp [problem?, ofFunction, checkPresent] at named ⊢

theorem id_ofFunction_injective
    : Function.Injective fun function => (ofFunction family bus base function).id := by
  intro left right same
  exact decimal_injective ((String.append_right_inj _).mp same)

theorem address_ofFunction_injective
    : Function.Injective fun function => (ofFunction family bus base function).address := by
  intro left right same
  exact hexadecimal_injective ((String.append_right_inj _).mp same)

/-- The address of a port is that of the slot with the function behind it. -/
theorem address_ofFunction (function : Nat)
    : (ofFunction family bus base function).address
      = base ++ "." ++ ("0x" ++ hexadecimal function) := by
  apply String.toList_injective
  simp [ofFunction]

theorem effectiveAddress_ofFunction (function : Nat)
    : (ofFunction family bus base function).effectiveAddress
      = (ofFunction family bus base function).address := by
  simp [effectiveAddress, orElse, ofFunction]

/-- A function has no bus path. -/
theorem slash_not_mem_function (function : Nat)
    : '/' ∉ ("0x" ++ hexadecimal function).toList := by
  intro member
  have digits : '/' ∈ Numeral.write 16 function := by simpa [hexadecimal] using member
  obtain ⟨digit, small, same⟩ := Numeral.exists_digitSymbol_of_mem_write (by decide) digits
  have every : ∀ digit < 16, '/' ≠ Numeral.digitSymbol digit := by decide
  exact every digit small same

/-- Every function is at the slot of the address that the range is made from, because what is
written behind it has no bus path.
-/
theorem slotBeforeFunction?_ofFunction (function : Nat)
    : BusAddress.slotBeforeFunction? (ofFunction family bus base function).address
      = BusAddress.slotBeforeFunction? base := by
  rw [address_ofFunction,
    BusAddress.slotBeforeFunction?_append (slash_not_mem_function function)]

/-- A range with at least one port is made of a port for each of its functions. -/
theorem multifunctionRange_eq {count : Nat} (hasFamily : family ≠ "") (hasBase : base ≠ "")
    (positive : 1 ≤ count)
    : multifunctionRange family bus base count
      = .ok ((List.range count).map (ofFunction family bus base)) := by
  have nonzero : count ≠ 0 := Nat.pos_iff_ne_zero.mp positive
  have made : multifunctionRange family bus base count
      = pure ((List.range count).map (ofFunction family bus base)) := by
    simp [multifunctionRange, checkPresent, hasFamily, hasBase, nonzero, problem?_ofFunction]
  exact made

theorem isPortRange_ofFunction (count : Nat)
    : IsPortRange bus base count ((List.range count).map (ofFunction family bus base)) := by
  constructor
  case length => rw [List.length_map, List.length_range]
  case bus =>
    intro port member
    obtain ⟨function, _, rfl⟩ := List.mem_map.mp member
    rfl
  case valid =>
    intro port member
    obtain ⟨function, _, rfl⟩ := List.mem_map.mp member
    exact problem?_ofFunction family bus base function
  case ids =>
    rw [List.map_map]
    exact List.Nodup.map id_ofFunction_injective List.nodup_range
  case addresses =>
    rw [List.map_map]
    exact List.Nodup.map address_ofFunction_injective List.nodup_range
  case marks =>
    intro position port found
    rw [List.getElem?_map] at found
    obtain ⟨function, listed, rfl⟩ := Option.map_eq_some_iff.mp found
    obtain ⟨_, rfl⟩ := List.getElem?_eq_some_iff.mp listed
    simp [ofFunction]
  case slot =>
    intro port member
    obtain ⟨function, _, rfl⟩ := List.mem_map.mp member
    exact slotBeforeFunction?_ofFunction function

end RootPort

-----------------------------------------------------------------------------------------
-- Rendering ports
-----------------------------------------------------------------------------------------

namespace RootPort
variable {port : RootPort} {placement : Placement} {state : RunState} {slot : Nat}

/-- A port at no slot of the root bus is rendered without a claim. -/
theorem render_of_unclaimed
    (unclaimed : rootSlotOf? port.bus port.effectiveAddress = none)
    : (port.render placement).run state = (.ok (port.optionsFor placement), state) := by
  have served : (serveAll []).run state = (.ok [], state) := rfl
  rw [port.render_eq, Render.run_map, requests, claimRequests, unclaimed, Option.map_none,
    Option.toList_none, served]

/-- A port at a slot of the root bus occupies it, whether or not it has been occupied before. -/
theorem render_of_inside (claims : rootSlotOf? port.bus port.effectiveAddress = some slot)
    (inside : slot < slotCount)
    : (port.render placement).run state
      = (.ok (port.optionsFor placement), { state with bus := state.bus.occupy slot }) := by
  have served := (Granted.cons (Request.answer_claim_of_inside state inside) .nil).serve
  rw [port.render_eq, Render.run_map, requests, claimRequests, claims, Option.map_some,
    Option.toList_some, served]

/-- A port beyond the end of the root bus fails, and leaves the state as it is. -/
theorem render_of_beyond (claims : rootSlotOf? port.bus port.effectiveAddress = some slot)
    (beyond : slotCount ≤ slot)
    : (port.render placement).run state = (.error (.outOfRange slot), state) := by
  have served : (serveAll [.claim slot]).run state = (.error (.outOfRange slot), state) :=
    (Refused.here (Request.answer_claim_of_beyond state beyond)).serve
  rw [port.render_eq, Render.run_map, requests, claimRequests, claims, Option.map_some,
    Option.toList_some, served]

end RootPort

-----------------------------------------------------------------------------------------
-- Rendering the ports of a slot
-----------------------------------------------------------------------------------------

section
variable {port : RootPort} {ports rest : List RootPort} {architecture : Architecture}
  {placement : Placement} {state next final : RunState} {slot : Nat}

/-- Ports are rendered one after the other, each in the state that the one before it leaves. -/
theorem renderPorts_cons {options : List LaunchOption} {more : List (List LaunchOption)}
    (first : (port.render placement).run state = (.ok options, next))
    (later : (renderPorts architecture placement rest).run next = (.ok more, final))
    : (renderPorts architecture placement (port :: rest)).run state
      = (.ok (options :: more), final) := by
  rw [renderPorts] at later ⊢
  simp only [List.map_cons, renderPlan, RootPort.planned, Device.render, Render.run_bind, first,
    later, Render.run_pure]

/-- Ports that each leave a state as it is are all rendered in it, by induction on the ports. -/
theorem renderPorts_of_leaving
    (leaving
      : ∀ port ∈ ports,
          (port.render placement).run state = (.ok (port.optionsFor placement), state))
    : (renderPorts architecture placement ports).run state
      = (.ok (ports.map fun port => port.optionsFor placement), state) := by
  induction ports with
  | nil => rfl
  | cons port rest ih =>
      have first := leaving port List.mem_cons_self
      have later := ih fun port member => leaving port (List.mem_cons_of_mem _ member)
      exact renderPorts_cons first later

/-- The first port at a slot occupies it, and the others share it: in the state that the first one
leaves, a further claim of the slot changes nothing.
-/
theorem renderPorts_of_sharing (inside : slot < slotCount)
    (first : rootSlotOf? port.bus port.effectiveAddress = some slot)
    (others : ∀ other ∈ rest, rootSlotOf? other.bus other.effectiveAddress = some slot)
    : (renderPorts architecture placement (port :: rest)).run state
      = (.ok ((port :: rest).map fun port => port.optionsFor placement),
          { state with bus := state.bus.occupy slot }) := by
  have used : (state.bus.occupy slot).isUsed slot = true := by
    rw [RootBus.isUsed_occupy _ _ _ inside, BEq.rfl, Bool.true_or]
  have settled : (state.bus.occupy slot).occupy slot = state.bus.occupy slot :=
    RootBus.occupy_of_isUsed used
  refine renderPorts_cons (RootPort.render_of_inside first inside) ?_
  refine renderPorts_of_leaving fun other member => ?_
  rw [RootPort.render_of_inside (others other member) inside, settled]

/-- Ports at one place share its slot, by the place: a slot of the bus, none, or one beyond its end.
-/
theorem sharesSlot_of_places {base : String}
    (first
      : rootSlotOf? port.bus port.effectiveAddress = BusAddress.slotBeforeFunction? base)
    (others
      : ∀ other ∈ rest,
          rootSlotOf? other.bus other.effectiveAddress = BusAddress.slotBeforeFunction? base)
    : SharesSlot base (port :: rest) architecture placement state := by
  constructor
  case inside =>
    intro slot named inside
    rw [named] at first others
    refine ⟨renderPorts_of_sharing inside first others, fun other => ?_⟩
    rw [RootBus.mem_usedSlots, RootBus.mem_usedSlots, RootBus.isUsed_occupy _ _ _ inside,
      Bool.or_eq_true, beq_iff_eq, or_comm, @eq_comm _ slot]
  case unnamed =>
    intro unnamed
    rw [unnamed] at first others
    refine renderPorts_of_leaving fun port member => ?_
    rcases List.mem_cons.mp member with rfl | later
    · exact RootPort.render_of_unclaimed first
    · exact RootPort.render_of_unclaimed (others port later)
  case beyond =>
    intro slot named beyond
    rw [named] at first
    have refused : (port.render placement).run state = (.error (.outOfRange slot), state) :=
      RootPort.render_of_beyond first beyond
    refine ⟨⟨port, rfl, refused⟩, ?_⟩
    simp only [renderPorts, List.map_cons, renderPlan, RootPort.planned, Device.render,
      Render.run_bind, refused]

end

namespace RootPort

/-- On the root bus, every function is at the slot of the address that the range is made from. -/
theorem rootSlotOf?_ofFunction {family bus base : String} (root : isRootBus bus = true)
    (function : Nat)
    : rootSlotOf? (ofFunction family bus base function).bus
          (ofFunction family bus base function).effectiveAddress
      = BusAddress.slotBeforeFunction? base := by
  have places : isRootBus (ofFunction family bus base function).bus = true := root
  rw [rootSlotOf?, if_pos places, effectiveAddress_ofFunction, slotBeforeFunction?_ofFunction]

/-- Where a family and an address are given, a range of ports is always made. Its ports are valid,
have different identifiers and addresses and name the slot of the given address, and on the root bus
they share that slot, whatever is in it before.
-/
theorem multifunctionRange_sharesSlot (family bus base : String) (count : Nat)
    (hasFamily : family ≠ "") (hasBase : base ≠ "") (positive : 1 ≤ count)
    : ∃ ports,
        multifunctionRange family bus base count = .ok ports
        ∧ IsPortRange bus base count ports
        ∧ (isRootBus bus = true
            → ∀ architecture placement state,
                SharesSlot base ports architecture placement state) := by
  refine ⟨_, multifunctionRange_eq hasFamily hasBase positive, isPortRange_ofFunction count,
    fun root architecture placement state => ?_⟩
  obtain ⟨more, rfl⟩ := Nat.exists_eq_add_of_le' positive
  rw [List.range_succ_eq_map, List.map_cons]
  refine sharesSlot_of_places (rootSlotOf?_ofFunction root 0) fun other member => ?_
  obtain ⟨function, _, rfl⟩ := List.mem_map.mp member
  exact rootSlotOf?_ofFunction root function

/-- More ports than a slot has functions share the last slot of the bus, by an address that has a
bus path and a function of its own.
-/
theorem multifunctionRange_sharesSlot_nine
    : BusAddress.slotBeforeFunction? "pcie.0/0x1e.7" = some 30
      ∧ ∃ ports,
          multifunctionRange "rp" "pcie.0" "pcie.0/0x1e.7" 9 = .ok ports
          ∧ IsPortRange "pcie.0" "pcie.0/0x1e.7" 9 ports
          ∧ ∀ architecture placement state,
              SharesSlot "pcie.0/0x1e.7" ports architecture placement state := by
  obtain ⟨ports, made, range, shares⟩ :=
    multifunctionRange_sharesSlot "rp" "pcie.0" "pcie.0/0x1e.7" 9 (by decide) (by decide)
      (by decide)
  exact ⟨by decide +kernel, ports, made, range, shares (by decide)⟩

end RootPort

end GuestLaunch
