import GuestLaunch.Proofs.Indices.FollowingIndex
import GuestLaunch.Proofs.Placement.SlotLedger
import GuestLaunch.Proofs.Resources.AssemblyRun

/-!
States that extend each other. What a run has given out stays given out: a step may add to the
slots, the boot indices and the descriptors in use, and it takes nothing back, even if it fails.
-/

namespace GuestLaunch

/-- The boot indices in use. -/
def RunState.bootIndices (state : RunState) : List UInt32 :=
  state.indices.indices IndexRegistry.bootCategory

@[simp] theorem RunState.bootIndices_insert (state : RunState) (index : UInt32)
    : RunState.bootIndices
          { state with indices := state.indices.insert IndexRegistry.bootCategory index }
      = index :: state.bootIndices :=
  IndexRegistry.indices_insert

/-- A later state keeps all that is in use in an earlier one, and the descriptors keep their
numbers.
-/
structure RunState.Extends (earlier later : RunState) : Prop where
  slots : earlier.bus.usedSlots ⊆ later.bus.usedSlots
  bootIndices : earlier.bootIndices ⊆ later.bootIndices
  descriptors : earlier.descriptors <+: later.descriptors

theorem RunState.Extends.refl (state : RunState) : state.Extends state :=
  ⟨List.Subset.refl _, List.Subset.refl _, List.prefix_refl _⟩

theorem RunState.Extends.trans {earlier middle later : RunState}
    (first : earlier.Extends middle) (second : middle.Extends later)
    : earlier.Extends later :=
  ⟨List.Subset.trans first.slots second.slots,
    List.Subset.trans first.bootIndices second.bootIndices,
    first.descriptors.trans second.descriptors⟩

-----------------------------------------------------------------------------------------
-- Requests
-----------------------------------------------------------------------------------------

/-- A request that is granted extends the state, by what the run answers. -/
theorem Request.extends_of_answer {request : Request} {state next : RunState} {grant : Grant}
    (h : request.answer state = .ok (grant, next))
    : state.Extends next := by
  have slots : state.bus.usedSlots ⊆ next.bus.usedSlots := by
    intro slot listed
    rw [RootBus.mem_usedSlots] at listed ⊢
    exact (isUsed_of_answer h slot).mpr (Or.inl listed)
  cases answered_of_ok h with
  | claim | place => exact ⟨slots, List.Subset.refl _, List.prefix_refl _⟩
  | reserve fresh =>
      refine ⟨slots, ?_, List.prefix_refl _⟩
      rw [RunState.bootIndices_insert]
      exact List.subset_cons_self _ _
  | number numbered =>
      obtain ⟨_, rfl⟩ := IndexRegistry.next_ok numbered
      refine ⟨slots, ?_, List.prefix_refl _⟩
      rw [RunState.bootIndices_insert]
      exact List.subset_cons_self _ _
  | inherit => exact ⟨slots, List.Subset.refl _, List.prefix_append _ _⟩

/-- A run that grants requests extends its first state, by induction on the run. -/
theorem Granted.extends {state final : RunState} {requests : List Request}
    {grants : List Grant} (h : Granted state requests grants final)
    : state.Extends final := by
  induction h with
  | nil => exact .refl _
  | cons first _ ih => exact (Request.extends_of_answer first).trans ih

/-- Putting requests to a run extends its state, whether or not all of them are granted: what is
granted before a refusal stays granted, and the refusal itself changes nothing.
-/
theorem extends_serveAll (requests : List Request) (state : RunState)
    : state.Extends ((serveAll requests).run state).2 := by
  obtain ⟨_, _, _, _, granted⟩ := exists_granted_serveAll requests state
  exact granted.extends

-----------------------------------------------------------------------------------------
-- Steps
-----------------------------------------------------------------------------------------

/-- A step that may be taken on the state of a run. -/
inductive RunStep where
  | render (device : Device) (placement : Placement) (architecture : Architecture)
  | incoming (source : Migration)
  | claimRootSlot (bus address : String)
  | allocateSlot (address : String)
  | resolveBootIndex (configured : Option String)
  | reserveBootIndex (index : UInt32)
  | inherit (descriptors : List Int32)
deriving DecidableEq, Repr

namespace RunStep

/-- What a step does to a run, apart from the value it gives. -/
def effect : RunStep → Render Unit
  | render device placement architecture =>
      (fun _ => ()) <$> device.render placement architecture
  | incoming source => (fun _ => ()) <$> source.render
  | claimRootSlot bus address => Render.claimRootSlot bus address
  | allocateSlot address => (fun _ => ()) <$> Render.allocateSlot address
  | resolveBootIndex configured => (fun _ => ()) <$> Render.resolveBootIndex configured
  | reserveBootIndex index => Render.reserveBootIndex index
  | inherit descriptors => (fun _ => ()) <$> Render.inherit descriptors

/-- What a step asks for. The key of the descriptors is not used outside of a device. -/
def requests : RunStep → List Request
  | render device placement _ => device.requests placement.transport
  | incoming source => source.requests
  | claimRootSlot bus address => claimRequests bus address
  | allocateSlot address => [.place address]
  | resolveBootIndex configured => indexRequests configured
  | reserveBootIndex index => [.reserve index]
  | inherit descriptors => [.inherit "" descriptors]

/-- The effect of a step is that of serving its requests, by the kind of the step. -/
theorem effect_eq (step : RunStep)
    : step.effect = (fun _ => ()) <$> serveAll step.requests := by
  cases step with
  | render device placement architecture =>
      rw [effect, Device.render_eq, Functor.map_map]
      rfl
  | incoming source =>
      rw [effect, Migration.render_eq, Functor.map_map]
      rfl
  | claimRootSlot bus address => exact claimRootSlot_eq bus address
  | allocateSlot address => simp [effect, requests, serveAll, Request.serve_place]
  | resolveBootIndex configured =>
      rw [effect, resolveBootIndex_eq, Functor.map_map]
      rfl
  | reserveBootIndex index => simp [effect, requests, serveAll, Request.serve_reserve]
  | inherit descriptors => simp [effect, requests, serveAll, Request.serve_inherit]

end RunStep

namespace RunState

/-- The state after a step, whether the step succeeds or fails. -/
def after (state : RunState) (step : RunStep) : RunState := (step.effect.run state).2

/-- The state after a sequence of steps, all of which are taken even if some fail. -/
def afterAll (state : RunState) (steps : List RunStep) : RunState := steps.foldl after state

/-- The state after a step is that after its requests are served. -/
theorem after_eq (state : RunState) (step : RunStep)
    : state.after step = ((serveAll step.requests).run state).2 := by
  rw [after, step.effect_eq, Render.run_map]
  cases served : (serveAll step.requests).run state with
  | mk result final => cases result <;> rfl

theorem extends_after (state : RunState) (step : RunStep) : state.Extends (state.after step) := by
  rw [after_eq]
  exact extends_serveAll step.requests state

/-- A sequence of steps extends the state, by induction on the steps. -/
theorem extends_afterAll (state : RunState) (steps : List RunStep)
    : state.Extends (state.afterAll steps) := by
  induction steps generalizing state with
  | nil => exact .refl state
  | cons step rest ih => exact (state.extends_after step).trans (ih (state.after step))

end RunState

end GuestLaunch
