import GuestLaunch.Proofs.Descriptors.Numbering
import GuestLaunch.Proofs.Options.Properties
import GuestLaunch.Proofs.Resources.PlanRequests

/-!
The queues of a network card and those of its backend. The card has several queues if descriptors
are given, whatever the kind of its backend, but only a tap or macvtap backend lists them. So the
two agree on all devices but those of another kind that are given descriptors.
-/

namespace GuestLaunch
open Text

/-- How many descriptors each list of queues has that options name, if it can be read. -/
def queueCounts (options : List LaunchOption) : List (Option Nat) :=
  (propertyValues .netdev "fds" options).map fun text => (readNumbers? text).map List.length

theorem queueCounts_eq_nil_iff (options : List LaunchOption)
    : queueCounts options = [] ↔ propertyValues .netdev "fds" options = [] :=
  List.map_eq_nil_iff

/-- Whether the card in options has the queues of the backend. -/
structure QueuesAgree (placement : Placement) (options : List LaunchOption) : Prop where
  /-- The card has several queues exactly if the backend lists descriptors. -/
  multiqueue
    : "on" ∈ propertyValues .device "mq" options ↔ propertyValues .netdev "fds" options ≠ []
  /-- On PCI it then has two vectors for each descriptor of the list, and two more. -/
  vectors
    : placement.transport = .pci
      → ∀ count ∈ queueCounts options,
          ∃ queues,
            count = some queues
            ∧ propertyValues .device "vectors" options = [decimal (queues * 2 + 2)]

/-- The queues in the options of a network device that has a card. -/
structure RenderedQueues (device : NetDevice) (placement : Placement)
    (options : List LaunchOption) : Prop where
  multiqueue
    : propertyValues .device "mq" options = if device.queues = [] then [] else ["on"]
  vectors
    : propertyValues .device "vectors" options
      = if device.queues ≠ [] ∧ placement.transport = .pci then
          [decimal (device.queues.length * 2 + 2)]
        else
          []
  /-- The backend lists the descriptors that it inherits, in one list. -/
  listed
    : queueCounts options
      = if device.queueDescriptors = [] then [] else [some device.queueDescriptors.length]
  /-- Card and backend disagree if descriptors are given to a backend that lists none. -/
  agree
    : QueuesAgree placement options
      ↔ (device.queues ≠ [] → device.type = .tap ∨ device.type = .macvtap)

-----------------------------------------------------------------------------------------
-- The numbers under a key
-----------------------------------------------------------------------------------------

/-- A run that is asked for one list of descriptors under a key grants a number for each of them,
by induction on the run: the requests before it grant nothing under the key.
-/
theorem Granted.exists_numbersIn? {state final : RunState} {requests : List Request}
    {grants : List Grant} (h : Granted state requests grants final) {key : String}
    {descriptors : List Int32} (asked : .inherit key descriptors ∈ requests)
    (single : ∀ other, .inherit key other ∈ requests → other = descriptors)
    : ∃ position, numbersIn? key grants = some (childNumbers position descriptors.length) := by
  induction h with
  | nil => cases asked
  | @cons state next final request rest grant grants first later ih =>
      have behind (other : request ≠ .inherit key descriptors)
          : ∃ position,
              numbersIn? key grants = some (childNumbers position descriptors.length) := by
        refine ih ?_ fun further member => single further (List.mem_cons_of_mem _ member)
        exact (List.mem_cons.mp asked).resolve_left fun same => other same.symm
      rw [numbersIn?_cons]
      cases Request.answered_of_ok first with
      | @inherit own given =>
          by_cases same : own = key
          · subst same
            obtain rfl := single given List.mem_cons_self
            exact ⟨state.descriptors.length, by simp [childNumbers]⟩
          · have other : Request.inherit own given ≠ .inherit key descriptors := by
              intro equal
              exact same (Request.inherit.inj equal).1
            simpa [same] using behind other
      | claim | place | reserve | number => simpa using behind (by simp)

namespace NetDevice
variable {device : NetDevice}

/-- Only one list is asked for under the key of the queues. -/
theorem eq_queueDescriptors_of_mem_requests {descriptors : List Int32}
    (member : .inherit queueKey descriptors ∈ device.requests)
    : descriptors = device.queueDescriptors := by
  unfold requests at member
  split at member
  · cases member
  · rcases List.mem_append.mp member with backend | card
    · unfold backendRequests at backend
      split at backend
      · cases backend
      · simp only [inheritRequests, List.mem_append, List.mem_ite_nil_left,
          List.mem_singleton, Request.inherit.injEq] at backend
        rcases backend with ⟨_, other, _⟩ | ⟨_, _, same⟩
        · exact absurd other (by decide)
        · exact same
    · simp [cardRequests, slotRequests, indexRequests] at card

/-- A backend inherits the descriptors of its queues if it is of a kind that lists them. -/
theorem queueDescriptors_of_kind (kind : device.type = .tap ∨ device.type = .macvtap)
    : device.queueDescriptors = device.queues :=
  if_pos kind

theorem queueDescriptors_of_closed (closed : device.queues = [])
    : device.queueDescriptors = [] := by
  rw [queueDescriptors, closed, ite_self]

theorem kind_of_queueDescriptors (some : device.queueDescriptors ≠ [])
    : device.type = .tap ∨ device.type = .macvtap :=
  Decidable.not_not.mp fun other => some (if_neg other)

/-- A backend of a kind that lists its queues is on the command line. -/
theorem backendKeyword?_of_queueDescriptors (some : device.queueDescriptors ≠ [])
    : device.type.backendKeyword? = Option.some "tap" := by
  rcases kind_of_queueDescriptors some with kind | kind <;> rw [kind] <;> rfl

-----------------------------------------------------------------------------------------
-- The options of a device with a card
-----------------------------------------------------------------------------------------

/-- A device with a card has its backend and the card on the command line. -/
theorem optionsFor_of_mem {placement : Placement} {grants : List Grant} {params : List Param}
    (shown : .setting .device params ∈ device.optionsFor placement grants)
    : device.isSkipped = false
      ∧ device.optionsFor placement grants
        = device.backendOptionsFor grants
          ++ [.setting .device
            (device.cardParams placement (placement.deviceName virtioDriver device.driver)
              (slotIn? grants) (bootIndexFor device.bootIndex grants))] := by
  unfold optionsFor at shown ⊢
  cases skipped : device.isSkipped with
  | true => simp [skipped] at shown
  | false =>
      refine ⟨rfl, congrArg (device.backendOptionsFor grants ++ ·) (if_neg ?_)⟩
      intro bare
      have backend : .setting .device params ∈ device.backendOptionsFor grants := by
        simpa [skipped, cardOptionsFor, bare] using shown
      unfold backendOptionsFor at backend
      split at backend <;> simp at backend

theorem queueValues_cardParams (placement : Placement) (name : String) (slot : Option Nat)
    (bootIndex : Option String)
    : valuesUnder "mq" (device.cardParams placement name slot bootIndex)
        = (if device.queues = [] then [] else ["on"])
      ∧ valuesUnder "vectors" (device.cardParams placement name slot bootIndex)
        = if device.queues ≠ [] ∧ placement.transport = .pci then
            [decimal (device.queues.length * 2 + 2)]
          else
            [] := by
  constructor
  all_goals
    by_cases closed : device.queues = [] <;> simp [cardParams, queueParams, closed]

/-- The list of queues in the options of a backend is that of the descriptors it inherits. -/
theorem queueValues_backendOptionsFor (device : NetDevice) (grants : List Grant)
    : propertyValues .netdev "fds" (device.backendOptionsFor grants)
      = valuesUnder "fds" (inheritedParams queueKey device.queueDescriptors grants) := by
  have named : valuesUnder "fds" device.namedParams = [] :=
    device.valuesUnder_namedParams (by decide)
  unfold backendOptionsFor
  cases kind : device.type.backendKeyword? with
  | none =>
      have none : device.queueDescriptors = [] := by
        refine Classical.not_not.mp fun some => ?_
        rw [backendKeyword?_of_queueDescriptors some] at kind
        cases kind
      simp [inheritedParams, none]
  | some keyword => simp [backendParamsFor, named, vhostKey]

theorem propertyValues_backendOptionsFor_device (device : NetDevice) (grants : List Grant)
    (key : String)
    : propertyValues .device key (device.backendOptionsFor grants) = [] := by
  unfold backendOptionsFor
  split <;> simp

/-- The list of a backend has as many numbers as the backend inherits descriptors. -/
theorem queueCounts_backendOptionsFor {state final : RunState} {grants : List Grant}
    (granted : Granted state device.requests grants final) (rendered : device.isSkipped = false)
    : queueCounts (device.backendOptionsFor grants)
      = if device.queueDescriptors = [] then []
        else [some device.queueDescriptors.length] := by
  rw [queueCounts, queueValues_backendOptionsFor]
  by_cases none : device.queueDescriptors = []
  · rw [if_pos none, inheritedParams, if_pos none]
    rfl
  · have asked : .inherit queueKey device.queueDescriptors ∈ device.requests := by
      simp [requests, rendered, backendRequests, backendKeyword?_of_queueDescriptors none,
        inheritRequests, none]
    obtain ⟨position, numbers⟩ :=
      granted.exists_numbersIn? asked fun _ => eq_queueDescriptors_of_mem_requests
    have some : device.queueDescriptors.length ≠ 0 := mt List.eq_nil_of_length_eq_zero none
    have read := readNumbers?_childNumbers some position
    rw [if_neg none, inheritedParams, if_neg none, numbers]
    simp [descriptorParam, queueKey, read]

end NetDevice

/-- A network device with a card has queues on both sides, or on neither, unless descriptors are
given to a backend that lists none.
-/
theorem renderedQueues_of_render {device : NetDevice} {placement : Placement}
    {state final : RunState} {options : List LaunchOption} {params : List Param}
    (rendered : (device.render placement).run state = (.ok options, final))
    (shown : .setting .device params ∈ options)
    : RenderedQueues device placement options := by
  have own : ((Device.net device).render placement .x86_64).run state = (.ok options, final) :=
    rendered
  obtain ⟨grants, granted, same⟩ := Device.exists_optionsFor_of_render own
  obtain rfl : options = device.optionsFor placement grants := same
  obtain ⟨present, split⟩ := NetDevice.optionsFor_of_mem shown
  have multiqueue : propertyValues .device "mq" (device.optionsFor placement grants)
      = if device.queues = [] then [] else ["on"] := by
    simp [split, device.propertyValues_backendOptionsFor_device,
      NetDevice.queueValues_cardParams]
  have vectors : propertyValues .device "vectors" (device.optionsFor placement grants)
      = if device.queues ≠ [] ∧ placement.transport = .pci then
          [decimal (device.queues.length * 2 + 2)]
        else
          [] := by
    simp [split, device.propertyValues_backendOptionsFor_device,
      NetDevice.queueValues_cardParams]
  have listed : queueCounts (device.optionsFor placement grants)
      = if device.queueDescriptors = [] then []
        else [some device.queueDescriptors.length] := by
    rw [← NetDevice.queueCounts_backendOptionsFor granted present]
    simp [queueCounts, split]
  have lists : propertyValues .netdev "fds" (device.optionsFor placement grants) ≠ []
      ↔ device.queueDescriptors ≠ [] := by
    rw [Ne, ← queueCounts_eq_nil_iff, listed]
    by_cases none : device.queueDescriptors = [] <;> simp [none]
  refine ⟨multiqueue, vectors, listed, ?_⟩
  constructor
  · intro agrees given
    have on : "on" ∈ propertyValues .device "mq" (device.optionsFor placement grants) := by
      rw [multiqueue, if_neg given]
      exact List.mem_cons_self
    exact NetDevice.kind_of_queueDescriptors (lists.mp (agrees.multiqueue.mp on))
  · intro kind
    have inherited : device.queueDescriptors = device.queues := by
      by_cases closed : device.queues = []
      · exact (NetDevice.queueDescriptors_of_closed closed).trans closed.symm
      · exact NetDevice.queueDescriptors_of_kind (kind closed)
    constructor
    case multiqueue =>
      rw [multiqueue, lists, inherited]
      by_cases closed : device.queues = [] <;> simp [closed]
    case vectors =>
      intro pci count member
      rw [listed, inherited] at member
      obtain ⟨given, own⟩ := List.mem_ite_nil_left.mp member
      refine ⟨device.queues.length, List.mem_singleton.mp own, ?_⟩
      rw [vectors, if_pos ⟨given, pci⟩]

/-- The card of a tap interface with two open descriptors has the queues of its backend. -/
theorem renderedQueues_tapCard
    : let device : NetDevice :=
        { id := "n0", driver := "virtio-net", type := .tap, queues := [7, 9] }
      let placement : Placement := { transport := .pci }
      let options := device.optionsFor placement [.children "fds" [3, 4]]
      ((device.render placement).run (.initial .strict)).1.toOption = some options
        ∧ RenderedQueues device placement options
        ∧ QueuesAgree placement options
        ∧ propertyValues .netdev "fds" options = ["3:4"]
        ∧ propertyValues .device "vectors" options = ["6"] := by
  intro device placement options
  have rendered : ((device.render placement).run (.initial .strict)).1.toOption
      = some options := by
    decide +kernel
  have queues : RenderedQueues device placement options :=
    renderedQueues_of_render (Render.run_of_toOption rendered)
      (List.mem_append_right _ List.mem_cons_self)
  exact ⟨rendered, queues, queues.agree.mpr fun _ => Or.inl rfl, by decide +kernel,
    by decide +kernel⟩

/-- A card on a network of the hypervisor that is given a descriptor. -/
def userCard : NetDevice where
  id := "n0"
  driver := "virtio-net"
  mac := "52:54:00:00:00:01"
  queues := [7]

/-- The card is valid and has several queues, but its backend lists no descriptors. -/
theorem not_queuesAgree_userCard
    : let placement : Placement := { transport := .pci }
      let options := userCard.optionsFor placement []
      userCard.problem? = none
        ∧ (userCard.render placement).run (.initial .strict) = (.ok options, .initial .strict)
        ∧ propertyValues .netdev "fds" options = []
        ∧ propertyValues .device "mq" options = ["on"]
        ∧ propertyValues .device "vectors" options = ["4"]
        ∧ ¬QueuesAgree placement options := by
  intro placement options
  have listed : propertyValues .netdev "fds" options = [] := by decide +kernel
  have multiqueue : propertyValues .device "mq" options = ["on"] := by decide +kernel
  refine ⟨by decide +kernel, by rfl, listed, multiqueue, by decide +kernel, ?_⟩
  intro agrees
  exact agrees.multiqueue.mp (by rw [multiqueue]; exact List.mem_cons_self) listed

end GuestLaunch
