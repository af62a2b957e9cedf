import GuestLaunch.Proofs.Resources.DeviceRequests

/-!
What a network device asks for. The backend inherits up to two lists of descriptors, and the
card takes a slot and a boot index after them.
-/

namespace GuestLaunch

namespace NetDevice

/-- Whether nothing is rendered for a device: a macvtap interface without open descriptors. -/
def isSkipped (device : NetDevice) : Bool := device.type == .macvtap && device.queues == []

/-- The descriptors that the accelerator in the kernel inherits. -/
def vhostDescriptors (device : NetDevice) : List Int32 :=
  if device.vhost then device.vhostQueues else []

/-- The descriptors that a tap interface inherits. -/
def queueDescriptors (device : NetDevice) : List Int32 :=
  if device.type = .tap ∨ device.type = .macvtap then device.queues else []

def vhostKey : String := "vhostfds"

def queueKey : String := "fds"

/-- What the backend of a device asks for; some kinds have no backend. -/
def backendRequests (device : NetDevice) : List Request :=
  match device.type.backendKeyword? with
  | none => []
  | some _ =>
      inheritRequests vhostKey device.vhostDescriptors
        ++ inheritRequests queueKey device.queueDescriptors

/-- The address with which a card asks for a slot. -/
def slotAddress? (device : NetDevice) : Option String :=
  if device.isSkipped || device.driver.isEmpty || device.address.isEmpty then none
  else some device.address

/-- What the card of a device asks for: a slot and then a boot index. -/
def cardRequests (device : NetDevice) : List Request :=
  if device.driver.isEmpty then []
  else slotRequests device.slotAddress? ++ indexRequests device.bootIndex

def requests (device : NetDevice) : List Request :=
  if device.isSkipped then [] else device.backendRequests ++ device.cardRequests

/-- The parameter for inherited descriptors, once their numbers are granted. -/
def inheritedParams (key : String) (descriptors : List Int32) (grants : List Grant)
    : List Param :=
  if descriptors = [] then []
  else ((numbersIn? key grants).map (descriptorParam key)).toList

/-- The parameters of a backend that is no list of descriptors. -/
def namedParams (device : NetDevice) : List Param :=
  match device.type with
  | .tap => if device.queues = [] then device.tapParams else []
  | .user => device.user.params
  | .multicastSocket =>
      [.pair "mcast" (device.multicast.address ++ ":" ++ device.multicast.port)]
  | _ => []

def backendParamsFor (device : NetDevice) (keyword : String) (grants : List Grant)
    : List Param :=
  [.bare keyword, .pair "id" device.id] ++ Param.onWhen "vhost" device.vhost
    ++ inheritedParams vhostKey device.vhostDescriptors grants
    ++ inheritedParams queueKey device.queueDescriptors grants
    ++ device.namedParams

def backendOptionsFor (device : NetDevice) (grants : List Grant) : List LaunchOption :=
  match device.type.backendKeyword? with
  | none => []
  | some keyword => [.setting .netdev (device.backendParamsFor keyword grants)]

def cardOptionsFor (device : NetDevice) (placement : Placement) (grants : List Grant)
    : List LaunchOption :=
  if device.driver.isEmpty then []
  else
    [.setting .device
      (device.cardParams placement (placement.deviceName virtioDriver device.driver)
        (slotIn? grants) (bootIndexFor device.bootIndex grants))]

def optionsFor (device : NetDevice) (placement : Placement) (grants : List Grant)
    : List LaunchOption :=
  if device.isSkipped then []
  else device.backendOptionsFor grants ++ device.cardOptionsFor placement grants

theorem inheritUnder_eq (key : String) (descriptors : List Int32)
    : inheritUnder key descriptors
      = inheritedParams key descriptors <$> serveAll (inheritRequests key descriptors) := by
  by_cases none : descriptors = [] <;>
    simp [inheritUnder, inheritedParams, inheritRequests, serveAll, none,
      Request.serve_inherit]

/-- The parameters of the accelerator come from serving the request for its descriptors. -/
theorem vhostParams_eq (device : NetDevice)
    : device.vhostParams
      = (fun grants =>
          Param.onWhen "vhost" device.vhost
            ++ inheritedParams vhostKey device.vhostDescriptors grants)
          <$> serveAll (inheritRequests vhostKey device.vhostDescriptors) := by
  by_cases on : device.vhost
  · simp [vhostParams, Param.onWhen, vhostDescriptors, on, inheritUnder_eq, vhostKey]
  · simp [vhostParams, Param.onWhen, vhostDescriptors, on, inheritedParams, inheritRequests,
      serveAll]

/-- The parameters that depend on the kind of backend come from serving the request for the
descriptors of a tap interface, by the kind.
-/
theorem typeParams_eq (device : NetDevice)
    : device.typeParams
      = (fun grants =>
          inheritedParams queueKey device.queueDescriptors grants ++ device.namedParams)
          <$> serveAll (inheritRequests queueKey device.queueDescriptors) := by
  cases kind : device.type
  case tap =>
    by_cases closed : device.queues = []
    · simp [typeParams, namedParams, queueDescriptors, kind, closed, inheritedParams,
        inheritRequests, serveAll]
    · simp [typeParams, namedParams, queueDescriptors, kind, closed, inheritUnder_eq, queueKey]
  case macvtap =>
    simp [typeParams, namedParams, queueDescriptors, kind, inheritUnder_eq, queueKey]
  all_goals
    simp [typeParams, namedParams, queueDescriptors, kind, inheritedParams, inheritRequests,
      serveAll]

/-- Rendering a card is serving its requests, by the slot and the boot index it asks for. -/
theorem renderCard_eq (device : NetDevice) (placement : Placement)
    (rendered : device.isSkipped = false)
    : device.renderCard placement
      = device.cardOptionsFor placement <$> serveAll device.cardRequests := by
  by_cases bare : device.driver.isEmpty
  · simp [renderCard, cardOptionsFor, cardRequests, bare, serveAll]
  · by_cases placed : device.address.isEmpty
    all_goals
      by_cases automatic : device.bootIndex = some BootIndex.automatic <;>
        simp [renderCard, cardOptionsFor, cardRequests, slotAddress?, slotRequests,
          indexRequests, serveAll, rendered, bare, placed, automatic, resolveBootIndex_eq,
          Request.serve_place, Request.serve_number, bootIndexFor]

/-- A card reads no descriptor numbers. -/
theorem cardOptionsFor_children (device : NetDevice) (placement : Placement) (key : String)
    (numbers : List Nat) (grants : List Grant)
    : device.cardOptionsFor placement (.children key numbers :: grants)
      = device.cardOptionsFor placement grants := by
  simp [cardOptionsFor, bootIndexFor]

/-- Rendering a network device is serving its requests, by the lists of descriptors that the
backend inherits. The grants of the card stand behind those of the backend.
-/
theorem render_eq (device : NetDevice) (placement : Placement)
    : device.render placement
      = device.optionsFor placement <$> serveAll device.requests := by
  by_cases skipped : device.isSkipped
  · have bare : device.type = .macvtap ∧ device.queues = [] := by
      simpa [isSkipped] using skipped
    simp [render, optionsFor, requests, skipped, bare, serveAll]
  · have rendered : ¬(device.type = .macvtap ∧ device.queues = []) := by
      simpa [isSkipped] using skipped
    have options : device.optionsFor placement
        = fun grants =>
            device.backendOptionsFor grants ++ device.cardOptionsFor placement grants := by
      funext grants
      simp [optionsFor, skipped]
    have card := device.renderCard_eq placement (by simpa using skipped)
    rw [serveAll] at card
    cases kind : device.type.backendKeyword? with
    | none =>
        simp [render, options, requests, skipped, rendered, renderBackend, backendOptionsFor,
          backendRequests, kind, card, serveAll]
    | some keyword =>
        by_cases vhost : device.vhostDescriptors = []
        all_goals
          by_cases queues : device.queueDescriptors = [] <;>
            simp [render, options, requests, skipped, rendered, renderBackend,
              backendOptionsFor, backendParamsFor, backendRequests, kind, card, serveAll,
              vhostParams_eq, typeParams_eq, inheritRequests, inheritedParams, vhost, queues,
              Request.serve_inherit, cardOptionsFor_children, vhostKey, queueKey]

end NetDevice

end GuestLaunch
