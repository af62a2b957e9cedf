import GuestLaunch.Run

/-!
What a run is asked for. Every step that gives out resources is a list of requests. The run
grants them one after the other, up to the first one that it refuses.
-/

namespace GuestLaunch

/-- One thing that a run is asked for. -/
inductive Request where
  /-- The slot that the address of a root port or bridge names. -/
  | claim (slot : Nat)
  /-- A slot for a device with an address that may be empty. -/
  | place (address : String)
  /-- An explicit boot index. -/
  | reserve (index : UInt32)
  /-- The next boot index. -/
  | number
  /-- Descriptors to inherit, with the key under which their numbers are rendered. -/
  | inherit (key : String) (descriptors : List Int32)
deriving DecidableEq, Repr

/-- What a run grants. -/
inductive Grant where
  /-- The request has been recorded, and there is nothing to render. -/
  | recorded
  | slot (number : Nat)
  | index (number : UInt32)
  /-- The numbers that the child sees for inherited descriptors. -/
  | children (key : String) (numbers : List Nat)
deriving DecidableEq, Repr

namespace Grant

@[simp] def slot? : Grant → Option Nat
  | slot number => some number
  | _ => none

@[simp] def index? : Grant → Option UInt32
  | index number => some number
  | _ => none

@[simp] def numbersUnder? (key : String) : Grant → Option (List Nat)
  | children own numbers => if own = key then some numbers else none
  | _ => none

end Grant

/-- The first slot among grants. -/
def slotIn? (grants : List Grant) : Option Nat := grants.findSome? Grant.slot?

/-- The first boot index among grants. -/
def indexIn? (grants : List Grant) : Option UInt32 := grants.findSome? Grant.index?

/-- The first descriptor numbers under a key among grants. -/
def numbersIn? (key : String) (grants : List Grant) : Option (List Nat) :=
  grants.findSome? (Grant.numbersUnder? key)

@[simp] theorem slotIn?_nil : slotIn? [] = none := rfl

@[simp] theorem slotIn?_cons (grant : Grant) (grants : List Grant)
    : slotIn? (grant :: grants) = grant.slot?.or (slotIn? grants) := by
  rw [slotIn?, List.findSome?_cons]
  cases grant.slot? <;> rfl

@[simp] theorem indexIn?_nil : indexIn? [] = none := rfl

@[simp] theorem indexIn?_cons (grant : Grant) (grants : List Grant)
    : indexIn? (grant :: grants) = grant.index?.or (indexIn? grants) := by
  rw [indexIn?, List.findSome?_cons]
  cases grant.index? <;> rfl

@[simp] theorem numbersIn?_nil (key : String) : numbersIn? key [] = none := rfl

@[simp] theorem numbersIn?_cons (key : String) (grant : Grant) (grants : List Grant)
    : numbersIn? key (grant :: grants)
      = (grant.numbersUnder? key).or (numbersIn? key grants) := by
  rw [numbersIn?, List.findSome?_cons]
  cases grant.numbersUnder? key <;> rfl

namespace Request

/-- What a run in a state gives for a request: a grant with the state after it, or the cause of
a refusal, which leaves the state as it is.
-/
def answer (request : Request) (state : RunState)
    : Except AllocationError (Grant × RunState) :=
  match request with
  | claim slot => (state.bus.claim slot).map fun bus => (.recorded, { state with bus })
  | place address =>
      (state.bus.allocate address).map fun placed =>
        (.slot placed.1, { state with bus := placed.2 })
  | reserve index =>
      (state.indices.reserve IndexRegistry.bootCategory index).map fun indices =>
        (.recorded, { state with indices })
  | number =>
      (state.indices.next IndexRegistry.bootCategory).map fun numbered =>
        (.index numbered.1, { state with indices := numbered.2 })
  | inherit key descriptors =>
      .ok
        (.children key
          ((List.range' state.descriptors.length descriptors.length).map childDescriptor),
          { state with descriptors := state.descriptors ++ descriptors })

/-- Puts a request to the run. -/
def serve (request : Request) : Render Grant := do
  let state ← get
  match request.answer state with
  | .error cause => throw cause
  | .ok (grant, next) => do
      set next
      pure grant

theorem serve_claim (slot : Nat)
    : (claim slot).serve
      = (fun _ => Grant.recorded)
          <$> Render.onBus fun root => (root.claim slot).map fun claimed => ((), claimed) := by
  simp only [serve, Render.onBus, map_bind]
  refine bind_congr fun state => ?_
  cases h : state.bus.claim slot <;> simp [answer, h, Except.map]

theorem serve_place (address : String)
    : (place address).serve = Grant.slot <$> Render.allocateSlot address := by
  simp only [serve, Render.allocateSlot, Render.onBus, map_bind]
  refine bind_congr fun state => ?_
  cases h : state.bus.allocate address <;> simp [answer, h, Except.map]

theorem serve_reserve (index : UInt32)
    : (reserve index).serve
      = (fun _ => Grant.recorded) <$> Render.reserveBootIndex index := by
  simp only [serve, Render.reserveBootIndex, Render.onIndices, map_bind]
  refine bind_congr fun state => ?_
  cases h : state.indices.reserve IndexRegistry.bootCategory index <;>
    simp [answer, h, Except.map]

theorem serve_number
    : number.serve
      = Grant.index
          <$> Render.onIndices fun indices => indices.next IndexRegistry.bootCategory := by
  simp only [serve, Render.onIndices, map_bind]
  refine bind_congr fun state => ?_
  cases h : state.indices.next IndexRegistry.bootCategory <;> simp [answer, h, Except.map]

theorem serve_inherit (key : String) (descriptors : List Int32)
    : (inherit key descriptors).serve
      = Grant.children key <$> Render.inherit descriptors := by
  simp only [serve, Render.inherit, map_bind]
  refine bind_congr fun state => ?_
  simp [answer]

end Request

/-- Puts requests to the run in their order. -/
def serveAll (requests : List Request) : Render (List Grant) := requests.mapM Request.serve

-----------------------------------------------------------------------------------------
-- Runs that grant everything, and runs that refuse something
-----------------------------------------------------------------------------------------

namespace Render
variable {α β : Type}

theorem run_pure (value : α) (state : RunState)
    : (pure value : Render α).run state = (.ok value, state) :=
  rfl

/-- A step after another one runs in the state that the first one leaves, unless that fails. -/
theorem run_bind (first : Render α) (next : α → Render β) (state : RunState)
    : (first >>= next).run state
      = match first.run state with
        | (.ok value, after) => (next value).run after
        | (.error cause, after) => (.error cause, after) := by
  simp only [ExceptT.run, bind, ExceptT.bind, ExceptT.mk, StateT.bind]
  cases h : first state with
  | mk result after => cases result <;> rfl

/-- Mapping the value of a step changes neither its failures nor its effects. -/
theorem run_map (f : α → β) (step : Render α) (state : RunState)
    : (f <$> step).run state
      = match step.run state with
        | (.ok value, after) => (.ok (f value), after)
        | (.error cause, after) => (.error cause, after) := by
  rw [map_eq_pure_bind, run_bind]
  rfl

/-- A step that gives a value has succeeded. -/
theorem run_of_toOption {step : Render α} {state : RunState} {value : α}
    (gives : (step.run state).1.toOption = some value)
    : step.run state = (.ok value, (step.run state).2) := by
  cases outcome : step.run state with
  | mk result after =>
      rw [outcome] at gives
      cases result with
      | error cause => cases gives
      | ok given =>
          cases gives
          rfl

end Render

/-- Putting one request to a run gives what the run answers; a refusal leaves the state as it
is.
-/
theorem Request.serve_run (request : Request) (state : RunState)
    : request.serve.run state
      = match request.answer state with
        | .ok (grant, next) => (.ok grant, next)
        | .error cause => (.error cause, state) := by
  have read : (get : Render RunState).run state = (.ok state, state) := rfl
  rw [serve, Render.run_bind, read]
  cases h : request.answer state with
  | error cause => simp only [h]; rfl
  | ok granted => simp only [h]; rfl

/-- A run grants all requests of a list, from its first state to its last. -/
inductive Granted : RunState → List Request → List Grant → RunState → Prop
  | nil {state} : Granted state [] [] state
  | cons {state next final request rest grant grants}
    (first : request.answer state = .ok (grant, next))
    (later : Granted next rest grants final)
    : Granted state (request :: rest) (grant :: grants) final

/-- A run refuses a request of a list for a cause, after it has granted those before it. -/
inductive Refused : RunState → List Request → AllocationError → RunState → Prop
  | here {state request rest cause} (first : request.answer state = .error cause)
    : Refused state (request :: rest) cause state
  | later {state next final request rest grant cause}
    (first : request.answer state = .ok (grant, next))
    (later : Refused next rest cause final)
    : Refused state (request :: rest) cause final

/-- Every run either grants a whole list of requests or refuses one of them, by induction on
the list.
-/
theorem granted_or_refused (state : RunState) (requests : List Request)
    : (∃ grants final, Granted state requests grants final)
      ∨ ∃ cause final, Refused state requests cause final := by
  induction requests generalizing state with
  | nil => exact Or.inl ⟨[], state, .nil⟩
  | cons request rest ih =>
      cases first : request.answer state with
      | error cause => exact Or.inr ⟨cause, state, .here first⟩
      | ok granted =>
          obtain ⟨grant, next⟩ := granted
          rcases ih next with ⟨grants, final, later⟩ | ⟨cause, final, later⟩
          · exact Or.inl ⟨grant :: grants, final, .cons first later⟩
          · exact Or.inr ⟨cause, final, .later first later⟩

/-- Putting requests to a run that grants them gives the grants, by induction on the run. -/
theorem Granted.serve {state final : RunState} {requests : List Request}
    {grants : List Grant} (h : Granted state requests grants final)
    : (serveAll requests).run state = (.ok grants, final) := by
  induction h with
  | nil => rfl
  | cons first _ ih =>
      rw [serveAll] at ih ⊢
      simp only [List.mapM_cons, Render.run_bind, Request.serve_run, first, ih, Render.run_pure]

/-- Putting requests to a run that refuses one gives the cause, by induction on the run. -/
theorem Refused.serve {state final : RunState} {requests : List Request}
    {cause : AllocationError} (h : Refused state requests cause final)
    : (serveAll requests).run state = (.error cause, final) := by
  induction h with
  | here first =>
      rw [serveAll]
      simp only [List.mapM_cons, Render.run_bind, Request.serve_run, first]
  | later first _ ih =>
      rw [serveAll] at ih ⊢
      simp only [List.mapM_cons, Render.run_bind, Request.serve_run, first, ih]

/-- A run that refuses something refuses one request of its list in its last state, and has
granted those before it, by induction on the run.
-/
theorem Refused.exists_answer {state final : RunState} {requests : List Request}
    {cause : AllocationError} (h : Refused state requests cause final)
    : ∃ before request after grants,
        requests = before ++ request :: after
        ∧ Granted state before grants final
        ∧ request.answer final = .error cause := by
  induction h with
  | @here state request rest cause first => exact ⟨[], request, rest, [], rfl, .nil, first⟩
  | @later state next final request rest grant cause first _ ih =>
      obtain ⟨before, refused, after, grants, rfl, granted, answer⟩ := ih
      exact
        ⟨request :: before, refused, after, grant :: grants, rfl, .cons first granted, answer⟩

/-- Putting requests to a run grants a first part of them, whether or not all are granted. -/
theorem exists_granted_serveAll (requests : List Request) (state : RunState)
    : ∃ before after grants,
        requests = before ++ after
        ∧ Granted state before grants ((serveAll requests).run state).2 := by
  rcases granted_or_refused state requests with
    ⟨grants, final, granted⟩ | ⟨cause, final, refused⟩
  · rw [granted.serve]
    exact ⟨requests, [], grants, (List.append_nil _).symm, granted⟩
  · obtain ⟨before, request, after, grants, split, granted, _⟩ := refused.exists_answer
    rw [refused.serve]
    exact ⟨before, request :: after, grants, split, granted⟩

-----------------------------------------------------------------------------------------
-- Lists of requests that follow one another
-----------------------------------------------------------------------------------------

/-- Granting two lists in turn grants them as one, by induction on the first run. -/
theorem Granted.append {state middle final : RunState} {first second : List Request}
    {grants more : List Grant} (h : Granted state first grants middle)
    (next : Granted middle second more final)
    : Granted state (first ++ second) (grants ++ more) final := by
  induction h with
  | nil => exact next
  | cons answer _ ih => exact .cons answer (ih next)

/-- A list that is granted as a whole is granted part by part, by induction on the first
part.
-/
theorem Granted.split {state final : RunState} {first second : List Request}
    {grants : List Grant} (h : Granted state (first ++ second) grants final)
    : ∃ before after middle,
        grants = before ++ after
        ∧ Granted state first before middle
        ∧ Granted middle second after final := by
  induction first generalizing state grants with
  | nil => exact ⟨[], grants, state, rfl, .nil, h⟩
  | cons request rest ih =>
      cases h with
      | @cons _ _ _ _ _ grant _ answer later =>
          obtain ⟨before, after, middle, rfl, granted, next⟩ := ih later
          exact ⟨grant :: before, after, middle, rfl, .cons answer granted, next⟩

/-- A refusal in the first part is a refusal of the whole, by induction on the run. -/
theorem Refused.append {state final : RunState} {first : List Request}
    {cause : AllocationError} (h : Refused state first cause final) (second : List Request)
    : Refused state (first ++ second) cause final := by
  induction h with
  | here answer => exact .here answer
  | later answer _ ih => exact .later answer ih

/-- A refusal behind a part that is granted is a refusal of the whole, by induction on the
run that grants.
-/
theorem Granted.refuse {state middle final : RunState} {first second : List Request}
    {grants : List Grant} {cause : AllocationError} (h : Granted state first grants middle)
    (next : Refused middle second cause final)
    : Refused state (first ++ second) cause final := by
  induction h with
  | nil => exact next
  | cons answer _ ih => exact .later answer (ih next)

/-- A refusal of the whole happens in the first part, or in the second after the first has been
granted, by induction on the first part.
-/
theorem Refused.split {state final : RunState} {first second : List Request}
    {cause : AllocationError} (h : Refused state (first ++ second) cause final)
    : Refused state first cause final
      ∨ ∃ grants middle,
          Granted state first grants middle ∧ Refused middle second cause final := by
  induction first generalizing state with
  | nil => exact Or.inr ⟨[], state, .nil, h⟩
  | cons request rest ih =>
      cases h with
      | here answer => exact Or.inl (.here answer)
      | later answer later =>
          rcases ih later with refused | ⟨grants, middle, granted, refused⟩
          · exact Or.inl (.later answer refused)
          · exact Or.inr ⟨_, middle, .cons answer granted, refused⟩

/-- Requests behind some that are granted are served in the state that these leave. -/
theorem Granted.serveAll_append {state middle : RunState} {first : List Request}
    {grants : List Grant} (h : Granted state first grants middle) (second : List Request)
    : ((serveAll (first ++ second)).run state).2 = ((serveAll second).run middle).2 := by
  rcases granted_or_refused middle second with ⟨_, _, granted⟩ | ⟨_, _, refused⟩
  · rw [(h.append granted).serve, granted.serve]
  · rw [(h.refuse refused).serve, refused.serve]

end GuestLaunch
