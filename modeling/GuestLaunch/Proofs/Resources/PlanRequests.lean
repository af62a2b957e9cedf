import GuestLaunch.Proofs.Resources.NetRequests

/-!
What a whole plan of devices asks for. Every device of the catalogue is rendered by putting its
requests to the run, so a plan runs as the list of all their requests does.
-/

namespace GuestLaunch

namespace Device

def rootSlot? : Device → Option Nat
  | rootPort device => rootSlotOf? device.bus device.effectiveAddress
  | bridge device => rootSlotOf? device.bus device.address
  | _ => none

/-- The address with which a device asks for a slot, which may be empty; none for a device
that takes no slot.
-/
def slotAddress? (device : Device) (transport : Transport) : Option String :=
  match device with
  | scsi device => device.slotAddress? transport
  | ide device => some device.address
  | usb device => some device.address
  | disk device => device.slotAddress? transport
  | net device => device.slotAddress?
  | entropy device => device.slotAddress? transport
  | _ => none

def requests (device : Device) (transport : Transport) : List Request :=
  match device with
  | rootPort device => device.requests
  | bridge device => device.requests
  | scsi device => device.requests transport
  | ide device => device.requests
  | usb device => device.requests
  | disk device => device.requests transport
  | net device => device.requests
  | entropy device => device.requests transport
  | _ => []

def optionsFor (device : Device) (placement : Placement) (architecture : Architecture)
    (grants : List Grant) : List LaunchOption :=
  match device with
  | rootPort device => device.optionsFor placement
  | bridge device => device.optionsFor placement
  | scsi device => device.optionsFor placement grants
  | ide device => device.optionsFor device.busParams grants
  | usb device => device.optionsFor [] grants
  | disk device => device.optionsFor placement grants
  | char device => device.launchOptions placement
  | legacySerial device => device.launchOptions
  | monitor device => device.launchOptions
  | net device => device.optionsFor placement grants
  | entropy device => device.optionsFor placement grants
  | balloon device => device.launchOptions placement
  | virtioSerial device => device.launchOptions placement
  | flash device => device.launchOptions
  | spice device => device.launchOptions
  | tpm device => device.launchOptions architecture

/-- Rendering a device is serving its requests, by the kind of the device. -/
theorem render_eq (device : Device) (placement : Placement) (architecture : Architecture)
    : device.render placement architecture
      = device.optionsFor placement architecture
          <$> serveAll (device.requests placement.transport) := by
  cases device with
  | rootPort device => exact device.render_eq placement
  | bridge device => exact device.render_eq placement
  | scsi device => exact device.render_eq placement
  | ide device => exact device.renderIde_eq
  | usb device => exact device.renderUsb_eq
  | disk device => exact device.render_eq placement
  | net device => exact device.render_eq placement
  | entropy device => exact device.render_eq placement
  | char | legacySerial | monitor | balloon | virtioSerial | flash | spice | tpm => rfl

/-- The options of a device that is rendered are those for what it has been granted. -/
theorem exists_optionsFor_of_render {device : Device} {placement : Placement}
    {architecture : Architecture} {state after : RunState} {options : List LaunchOption}
    (rendered : (device.render placement architecture).run state = (.ok options, after))
    : ∃ grants,
        Granted state (device.requests placement.transport) grants after
        ∧ options = device.optionsFor placement architecture grants := by
  rw [device.render_eq, Render.run_map] at rendered
  rcases granted_or_refused state (device.requests placement.transport) with
    ⟨grants, final, granted⟩ | ⟨cause, final, refused⟩
  · rw [granted.serve] at rendered
    cases rendered
    exact ⟨grants, granted, rfl⟩
  · rw [refused.serve] at rendered
    cases rendered

end Device

-----------------------------------------------------------------------------------------
-- Plans
-----------------------------------------------------------------------------------------

def PlannedDevice.placement (planned : PlannedDevice) (iommuPlatform : Bool) : Placement :=
  { transport := planned.transport, iommuPlatform }

def PlannedDevice.requests (planned : PlannedDevice) : List Request :=
  planned.device.requests planned.transport

/-- The run grants what the devices of a plan ask for, device by device. -/
inductive PlanGranted
    : RunState → List PlannedDevice → List (List Grant) → RunState → Prop
  | nil {state} : PlanGranted state [] [] state
  | cons {state next final planned rest grants more}
    (first : Granted state planned.requests grants next)
    (later : PlanGranted next rest more final)
    : PlanGranted state (planned :: rest) (grants :: more) final

/-- The options of a plan, with one group for each device, once its requests are granted. -/
def planOptions (architecture : Architecture) (iommuPlatform : Bool)
    : List PlannedDevice → List (List Grant) → List (List LaunchOption) :=
  List.zipWith fun planned =>
    planned.device.optionsFor (planned.placement iommuPlatform) architecture

/-- A plan that is granted is granted as one list of requests, by induction on the plan. -/
theorem PlanGranted.granted {state final : RunState} {plan : List PlannedDevice}
    {grants : List (List Grant)} (h : PlanGranted state plan grants final)
    : Granted state (plan.flatMap PlannedDevice.requests) grants.flatten final := by
  induction h with
  | nil => exact .nil
  | cons first _ ih => exact first.append ih

/-- The requests of a plan are granted device by device, by induction on the plan. -/
theorem Granted.plan {state final : RunState} {plan : List PlannedDevice}
    {grants : List Grant}
    (h : Granted state (plan.flatMap PlannedDevice.requests) grants final)
    : ∃ each, grants = each.flatten ∧ PlanGranted state plan each final := by
  induction plan generalizing state grants with
  | nil =>
      cases h
      exact ⟨[], rfl, .nil⟩
  | cons planned rest ih =>
      obtain ⟨before, after, middle, rfl, first, later⟩ := Granted.split h
      obtain ⟨each, rfl, granted⟩ := ih later
      exact ⟨before :: each, rfl, .cons first granted⟩

theorem Granted.render {state final : RunState} {planned : PlannedDevice}
    {grants : List Grant} (h : Granted state planned.requests grants final)
    (architecture : Architecture) (iommuPlatform : Bool)
    : (planned.device.render (planned.placement iommuPlatform) architecture).run state
      = (.ok
          (planned.device.optionsFor (planned.placement iommuPlatform) architecture grants),
          final) := by
  rw [Device.render_eq, Render.run_map]
  have served : (serveAll (planned.device.requests
      (planned.placement iommuPlatform).transport)).run state = (.ok grants, final) := h.serve
  rw [served]

/-- A device with a request that is refused fails to be rendered for the same cause. -/
theorem Refused.render {state final : RunState} {planned : PlannedDevice}
    {cause : AllocationError} (h : Refused state planned.requests cause final)
    (architecture : Architecture) (iommuPlatform : Bool)
    : (planned.device.render (planned.placement iommuPlatform) architecture).run state
      = (.error cause, final) := by
  rw [Device.render_eq, Render.run_map]
  have served : (serveAll (planned.device.requests
      (planned.placement iommuPlatform).transport)).run state = (.error cause, final) :=
    h.serve
  rw [served]

/-- A plan whose requests are granted is rendered with its options, by induction on the
plan.
-/
theorem PlanGranted.render {state final : RunState} {plan : List PlannedDevice}
    {grants : List (List Grant)} (h : PlanGranted state plan grants final)
    (architecture : Architecture) (iommuPlatform : Bool)
    : (renderPlan architecture iommuPlatform plan).run state
      = (.ok (planOptions architecture iommuPlatform plan grants), final) := by
  induction h with
  | nil => rfl
  | cons first _ ih =>
      have rendered := first.render architecture iommuPlatform
      rw [PlannedDevice.placement] at rendered
      simp only [renderPlan, Render.run_bind, rendered, ih, Render.run_pure]
      rfl

/-- A plan with a request that is refused fails to be rendered for the same cause, by induction
on the plan.
-/
theorem Refused.renderPlan {state final : RunState} {plan : List PlannedDevice}
    {cause : AllocationError}
    (h : Refused state (plan.flatMap PlannedDevice.requests) cause final)
    (architecture : Architecture) (iommuPlatform : Bool)
    : (GuestLaunch.renderPlan architecture iommuPlatform plan).run state
      = (.error cause, final) := by
  induction plan generalizing state with
  | nil => cases h
  | cons planned rest ih =>
      rcases Refused.split h with refused | ⟨grants, middle, granted, refused⟩
      · have rendered := refused.render architecture iommuPlatform
        rw [PlannedDevice.placement] at rendered
        simp only [GuestLaunch.renderPlan, Render.run_bind, rendered]
      · have rendered := granted.render architecture iommuPlatform
        rw [PlannedDevice.placement] at rendered
        simp only [GuestLaunch.renderPlan, Render.run_bind, rendered, ih refused]

/-- Recording the explicit boot indices of devices is serving the requests for them, by
induction on the devices.
-/
theorem reserveBootIndices_eq (devices : List Device)
    : reserveBootIndices devices
      = (fun _ => ())
          <$> serveAll
            ((devices.filterMap Device.explicitBootIndex?).map Request.reserve) := by
  induction devices with
  | nil => simp [reserveBootIndices, serveAll]
  | cons device rest ih =>
      rw [serveAll] at ih ⊢
      cases explicit : device.explicitBootIndex? with
      | none => simp [reserveBootIndices, explicit, ih]
      | some index => simp [reserveBootIndices, explicit, ih, Request.serve_reserve]

end GuestLaunch
