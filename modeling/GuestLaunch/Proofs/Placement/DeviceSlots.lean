import GuestLaunch.Proofs.Placement.SlotLedger
import GuestLaunch.Proofs.Resources.AssemblyRun

/-!
Which slots a configuration asks for. Only root ports and bridges claim slots, and they come
before all devices that are placed, so a run records every claim before it grants any slot.
-/

namespace GuestLaunch

-----------------------------------------------------------------------------------------
-- Claims and placements among requests
-----------------------------------------------------------------------------------------

@[simp] theorem claimedSlots_append (first second : List Request)
    : claimedSlots (first ++ second) = claimedSlots first ++ claimedSlots second :=
  List.filterMap_append

@[simp] theorem placedAddresses_append (first second : List Request)
    : placedAddresses (first ++ second) = placedAddresses first ++ placedAddresses second :=
  List.filterMap_append

@[simp] theorem grantedSlots_append (first second : List Grant)
    : grantedSlots (first ++ second) = grantedSlots first ++ grantedSlots second :=
  List.filterMap_append

@[simp] theorem claimedSlots_nil : claimedSlots [] = [] := rfl

@[simp] theorem placedAddresses_nil : placedAddresses [] = [] := rfl

@[simp] theorem claimedSlots_claimRequests (bus address : String)
    : claimedSlots (claimRequests bus address) = (rootSlotOf? bus address).toList := by
  rw [claimRequests]
  cases rootSlotOf? bus address <;> rfl

@[simp] theorem placedAddresses_claimRequests (bus address : String)
    : placedAddresses (claimRequests bus address) = [] := by
  rw [claimRequests]
  cases rootSlotOf? bus address <;> rfl

@[simp] theorem claimedSlots_slotRequests (address : Option String)
    : claimedSlots (slotRequests address) = [] := by
  cases address <;> rfl

@[simp] theorem placedAddresses_slotRequests (address : Option String)
    : placedAddresses (slotRequests address) = address.toList := by
  cases address <;> rfl

@[simp] theorem claimedSlots_indexRequests (configured : Option String)
    : claimedSlots (indexRequests configured) = [] := by
  unfold indexRequests
  split <;> rfl

@[simp] theorem placedAddresses_indexRequests (configured : Option String)
    : placedAddresses (indexRequests configured) = [] := by
  unfold indexRequests
  split <;> rfl

@[simp] theorem claimedSlots_inheritRequests (key : String) (descriptors : List Int32)
    : claimedSlots (inheritRequests key descriptors) = [] := by
  unfold inheritRequests
  split <;> rfl

@[simp] theorem placedAddresses_inheritRequests (key : String) (descriptors : List Int32)
    : placedAddresses (inheritRequests key descriptors) = [] := by
  unfold inheritRequests
  split <;> rfl

/-- Serving requests that neither claim a slot nor ask for one leaves the bus as it is, whether
or not all of them are granted.
-/
theorem bus_serveAll_eq {requests : List Request} (unclaimed : claimedSlots requests = [])
    (unplaced : placedAddresses requests = []) (state : RunState)
    : ((serveAll requests).run state).2.bus = state.bus := by
  obtain ⟨before, behind, _, rfl, granted⟩ := exists_granted_serveAll requests state
  rw [claimedSlots_append, List.append_eq_nil_iff] at unclaimed
  rw [placedAddresses_append, List.append_eq_nil_iff] at unplaced
  exact granted.bus_eq unclaimed.1 unplaced.1

/-- A backend neither claims a slot nor asks for one. -/
theorem NetDevice.slots_backendRequests (device : NetDevice)
    : claimedSlots device.backendRequests = []
      ∧ placedAddresses device.backendRequests = [] := by
  unfold NetDevice.backendRequests
  split <;> simp

/-- A device claims the slot that it has on the root bus, by the kind of the device. -/
theorem Device.claimedSlots_requests (device : Device) (transport : Transport)
    : claimedSlots (device.requests transport) = device.rootSlot?.toList := by
  cases device with
  | rootPort device => exact claimedSlots_claimRequests _ _
  | bridge device => exact claimedSlots_claimRequests _ _
  | scsi device => exact claimedSlots_slotRequests _
  | disk device =>
      show claimedSlots (device.requests transport) = []
      unfold Disk.requests
      split <;> simp
  | net device =>
      show claimedSlots device.requests = []
      unfold NetDevice.requests NetDevice.cardRequests
      split
      · rfl
      · split <;> simp [device.slots_backendRequests.1]
  | entropy device => exact claimedSlots_slotRequests _
  | ide | usb | char | legacySerial | monitor | balloon | virtioSerial | flash | spice | tpm =>
      rfl

/-- A device asks for at most one slot, with its own address, by the kind of the device. -/
theorem Device.placedAddresses_requests (device : Device) (transport : Transport)
    : placedAddresses (device.requests transport)
      = (device.slotAddress? transport).toList := by
  cases device with
  | rootPort device => exact placedAddresses_claimRequests _ _
  | bridge device => exact placedAddresses_claimRequests _ _
  | scsi device => exact placedAddresses_slotRequests _
  | disk device =>
      show placedAddresses (device.requests transport)
        = (device.slotAddress? transport).toList
      by_cases alone : device.driveOnly <;>
        simp [Disk.requests, Disk.slotAddress?, alone]
  | net device =>
      show placedAddresses device.requests = device.slotAddress?.toList
      by_cases skipped : device.isSkipped
      · simp [NetDevice.requests, NetDevice.slotAddress?, skipped]
      · by_cases bare : device.driver.isEmpty <;>
          simp [NetDevice.requests, NetDevice.cardRequests, NetDevice.slotAddress?, skipped,
            bare, device.slots_backendRequests.2]
  | entropy device => exact placedAddresses_slotRequests _
  | ide | usb | char | legacySerial | monitor | balloon | virtioSerial | flash | spice | tpm =>
      rfl

/-- The address field of a device of a kind that may be placed, which may be empty. -/
def Device.givenAddress? : Device → Option String
  | scsi device => some device.address
  | ide device => some device.address
  | usb device => some device.address
  | disk device => some device.address
  | net device => some device.address
  | entropy device => some device.address
  | _ => none

/-- A device asks for a slot with the address that it gives, by the kind of the device. -/
theorem Device.givenAddress?_of_slotAddress? {device : Device} {transport : Transport}
    {address : String} (asks : device.slotAddress? transport = some address)
    : device.givenAddress? = some address := by
  cases device with
  | scsi | disk | entropy => exact (Option.ite_none_right_eq_some.mp asks).2
  | net => exact (Option.ite_none_left_eq_some.mp asks).2
  | ide | usb => exact asks
  | _ => cases asks

/-- A device that is placed claims nothing. -/
theorem Device.rootSlot?_of_slotAddress? {device : Device} {transport : Transport}
    {address : String} (placed : device.slotAddress? transport = some address)
    : device.rootSlot? = none := by
  cases device <;> first | rfl | cases placed

/-- A device that is placed claims no slot and asks for one, with its address. -/
theorem Device.slots_requests_of_slotAddress? {device : Device} {transport : Transport}
    {address : String} (asks : device.slotAddress? transport = some address)
    : claimedSlots (device.requests transport) = []
      ∧ placedAddresses (device.requests transport) = [address] := by
  rw [device.claimedSlots_requests, device.placedAddresses_requests,
    rootSlot?_of_slotAddress? asks, asks]
  exact ⟨rfl, rfl⟩

/-- What is granted to a device that is placed is one allocation for its address. -/
theorem Granted.allocate_of_slotAddress? {device : Device} {transport : Transport}
    {state final : RunState} {grants : List Grant} {address : String}
    (h : Granted state (device.requests transport) grants final)
    (asks : device.slotAddress? transport = some address)
    : ∃ slot,
        state.bus.allocate address = .ok (slot, final.bus) ∧ grantedSlots grants = [slot] := by
  obtain ⟨unclaimed, placed⟩ := Device.slots_requests_of_slotAddress? asks
  exact h.slots_eq_singleton unclaimed placed

/-- A device without a slot of its own and without an address for one asks nothing of the bus. -/
theorem Device.slots_requests_of_unplaced {device : Device} {transport : Transport}
    (unclaimed : device.rootSlot? = none) (unplaced : device.slotAddress? transport = none)
    : claimedSlots (device.requests transport) = []
      ∧ placedAddresses (device.requests transport) = [] := by
  rw [device.claimedSlots_requests, device.placedAddresses_requests, unclaimed, unplaced]
  exact ⟨rfl, rfl⟩

-----------------------------------------------------------------------------------------
-- The order of claims and placements in a configuration
-----------------------------------------------------------------------------------------

namespace Config

/-- The slots of the root bus that the addresses of root ports and bridges name, in the order
of the devices.
-/
def rootSlots (config : Config) : List Nat := config.devices.filterMap Device.rootSlot?

/-- The devices that may claim slots. -/
def claimingDevices (config : Config) : List Device :=
  config.rootPorts.map .rootPort ++ config.bridges.map .bridge

def placedCategories : List Category := Category.all.drop 2

/-- The devices that claim no slots. -/
def placedDevices (config : Config) : List Device :=
  placedCategories.flatMap (Category.devices config)

/-- What a configuration asks for behind its boot indices and the slots it claims. -/
def laterRequests (config : Config) (host : Host) : List Request :=
  (config.placedDevices.map (PlannedDevice.of host)).flatMap PlannedDevice.requests
    ++ config.incoming.requests

/-- The devices that may claim slots come first. -/
theorem devices_eq (config : Config)
    : config.devices = config.claimingDevices ++ config.placedDevices := by
  rw [claimingDevices, List.append_assoc]
  rfl

/-- Behind the root ports and bridges no device has a slot of its own on the root bus. -/
theorem rootSlot?_of_mem_placedDevices {config : Config} {device : Device}
    (member : device ∈ config.placedDevices)
    : device.rootSlot? = none := by
  obtain ⟨category, listed, own⟩ := List.mem_flatMap.mp member
  have behind : ∀ category ∈ placedCategories, category ≠ .rootPort ∧ category ≠ .bridge := by
    decide
  cases category with
  | rootPort => exact absurd rfl (behind _ listed).1
  | bridge => exact absurd rfl (behind _ listed).2
  | _ =>
      obtain ⟨_, _, rfl⟩ := List.mem_map.mp own
      rfl

/-- Devices that may claim slots ask for nothing else. -/
theorem requests_of_mem_claimingDevices {config : Config} {device : Device}
    (member : device ∈ config.claimingDevices) (transport : Transport)
    : device.requests transport = (device.rootSlot?.map Request.claim).toList := by
  rcases List.mem_append.mp member with port | bridge
  · obtain ⟨_, _, rfl⟩ := List.mem_map.mp port
    rfl
  · obtain ⟨_, _, rfl⟩ := List.mem_map.mp bridge
    rfl

/-- Devices that may claim slots are not placed. -/
theorem slotAddress?_of_mem_claimingDevices {config : Config} {device : Device}
    (member : device ∈ config.claimingDevices) (transport : Transport)
    : device.slotAddress? transport = none := by
  rcases List.mem_append.mp member with port | bridge
  · obtain ⟨_, _, rfl⟩ := List.mem_map.mp port
    rfl
  · obtain ⟨_, _, rfl⟩ := List.mem_map.mp bridge
    rfl

/-- The slots that are claimed are all claimed by the devices that come first. -/
theorem rootSlots_eq (config : Config)
    : config.rootSlots = config.claimingDevices.filterMap Device.rootSlot? := by
  have none : config.placedDevices.filterMap Device.rootSlot? = [] := by
    apply List.filterMap_eq_nil_iff.mpr
    intro device member
    exact rootSlot?_of_mem_placedDevices member
  rw [rootSlots, devices_eq, List.filterMap_append, none, List.append_nil]

/-- Devices that claim their slots and ask for nothing else ask for those slots in order, by
induction on the devices.
-/
theorem claims_eq (host : Host) (devices : List Device)
    (only
      : ∀ device ∈ devices, ∀ transport,
          device.requests transport = (device.rootSlot?.map Request.claim).toList)
    : (devices.map (PlannedDevice.of host)).flatMap PlannedDevice.requests
      = (devices.filterMap Device.rootSlot?).map Request.claim := by
  induction devices with
  | nil => rfl
  | cons device rest ih =>
      have first : (PlannedDevice.of host device).requests
          = (device.rootSlot?.map Request.claim).toList :=
        only device (by simp) _
      have later := ih fun other member => only other (by simp [member])
      rw [List.map_cons, List.flatMap_cons, first, later]
      cases claimed : device.rootSlot? with
      | none => rw [List.filterMap_cons_none claimed]; rfl
      | some slot => rw [List.filterMap_cons_some claimed]; rfl

/-- A configuration asks for its explicit boot indices, then claims its slots, and then asks
for everything else.
-/
theorem requests_eq (config : Config) (host : Host)
    : config.requests host
      = config.reserveRequests
        ++ (config.rootSlots.map Request.claim ++ config.laterRequests host) := by
  have claims := claims_eq host config.claimingDevices
    fun _ member => requests_of_mem_claimingDevices member
  rw [requests, plan, devices_eq, List.map_append, List.flatMap_append, claims, rootSlots_eq,
    laterRequests, List.append_assoc]

theorem slots_reserveRequests (config : Config)
    : claimedSlots config.reserveRequests = []
      ∧ placedAddresses config.reserveRequests = [] := by
  constructor
  all_goals
    apply List.filterMap_eq_nil_iff.mpr
    intro request member
    obtain ⟨index, _, rfl⟩ := List.mem_map.mp member
    rfl

theorem slots_claims (slots : List Nat)
    : claimedSlots (slots.map Request.claim) = slots
      ∧ placedAddresses (slots.map Request.claim) = [] := by
  constructor
  · rw [claimedSlots, List.filterMap_map]
    exact List.filterMap_some
  · apply List.filterMap_eq_nil_iff.mpr
    intro request member
    obtain ⟨slot, _, rfl⟩ := List.mem_map.mp member
    rfl

theorem slots_incoming (source : Migration)
    : claimedSlots source.requests = [] ∧ placedAddresses source.requests = [] := by
  cases source <;> exact ⟨rfl, rfl⟩

/-- Nothing is claimed behind the claims of the root ports and bridges. -/
theorem claimedSlots_laterRequests (config : Config) (host : Host)
    : claimedSlots (config.laterRequests host) = [] := by
  rw [laterRequests, claimedSlots_append, (slots_incoming _).1, List.append_nil]
  apply List.filterMap_eq_nil_iff.mpr
  intro request member
  obtain ⟨planned, listed, own⟩ := List.mem_flatMap.mp member
  obtain ⟨device, placed, rfl⟩ := List.mem_map.mp listed
  have claimed := device.claimedSlots_requests (PlannedDevice.of host device).transport
  rw [rootSlot?_of_mem_placedDevices placed] at claimed
  exact List.filterMap_eq_nil_iff.mp claimed request own

/-- The slots that a configuration claims are those of its root ports and bridges. -/
theorem claimedSlots_requests (config : Config) (host : Host)
    : claimedSlots (config.requests host) = config.rootSlots := by
  rw [requests_eq, claimedSlots_append, claimedSlots_append, config.slots_reserveRequests.1,
    (slots_claims config.rootSlots).1, claimedSlots_laterRequests]
  simp

end Config

namespace Granted
variable {policy : CollisionPolicy} {config : Config} {host : Host} {grants : List Grant}
  {final : RunState}

/-- When everything is granted to a configuration, the occupied slots are those it has claimed
and those it has been granted.
-/
theorem isUsed_config
    (h : Granted (RunState.initial policy) (config.requests host) grants final)
    (slot : Nat)
    : final.bus.isUsed slot = true
      ↔ slot ∈ config.rootSlots ∨ slot ∈ grantedSlots grants := by
  have free : (RunState.initial policy).bus.isUsed slot = false :=
    RootBus.isUsed_empty policy slot
  rw [h.isUsed_iff slot, Config.claimedSlots_requests, free]
  simp

/-- A run that grants everything to a configuration goes through three phases: it records the boot
indices, then the claims, and then grants what is behind them.
-/
theorem exists_phases
    (h : Granted (RunState.initial policy) (config.requests host) grants final)
    : ∃ reservations recorded placements reserved claimed,
        grants = reservations ++ (recorded ++ placements)
        ∧ Granted (RunState.initial policy) config.reserveRequests reservations reserved
        ∧ Granted reserved (config.rootSlots.map Request.claim) recorded claimed
        ∧ Granted claimed (config.laterRequests host) placements final := by
  rw [Config.requests_eq] at h
  obtain ⟨reservations, rest, reserved, rfl, reserving, behind⟩ := Granted.split h
  obtain ⟨recorded, placements, claimed, rfl, claiming, placing⟩ := Granted.split behind
  exact ⟨reservations, recorded, placements, reserved, claimed, rfl, reserving, claiming,
    placing⟩

/-- No slot is both claimed and granted: all claims are recorded before the first slot is
granted, and only free slots are.
-/
theorem slots_unclaimed
    (h : Granted (RunState.initial policy) (config.requests host) grants final)
    {slot : Nat} (given : slot ∈ grantedSlots grants)
    : slot ∉ config.rootSlots := by
  obtain ⟨_, _, _, _, claimed, rfl, reserving, claiming, placing⟩ := h.exists_phases
  have none_reserving := reserving.slots_eq_nil config.slots_reserveRequests.2
  have none_claiming := claiming.slots_eq_nil (Config.slots_claims config.rootSlots).2
  rw [grantedSlots_append, grantedSlots_append, none_reserving, none_claiming] at given
  have free : claimed.bus.isUsed slot = false := placing.slots_fresh given
  intro own
  have used : claimed.bus.isUsed slot = true := by
    refine (claiming.isUsed_iff slot).mpr (Or.inr (Or.inl ?_))
    rw [(Config.slots_claims config.rootSlots).1]
    exact own
  exact absurd free (by simp [used])

end Granted

/-- A run that refuses something to a configuration does so in one of the three phases. -/
theorem Refused.exists_phase {policy : CollisionPolicy} {config : Config} {host : Host}
    {cause : AllocationError} {final : RunState}
    (h : Refused (RunState.initial policy) (config.requests host) cause final)
    : Refused (RunState.initial policy) config.reserveRequests cause final
      ∨ ∃ reservations reserved,
          Granted (RunState.initial policy) config.reserveRequests reservations reserved
          ∧ (Refused reserved (config.rootSlots.map Request.claim) cause final
            ∨ ∃ recorded claimed,
                Granted reserved (config.rootSlots.map Request.claim) recorded claimed
                ∧ Refused claimed (config.laterRequests host) cause final) := by
  rw [Config.requests_eq] at h
  rcases Refused.split h with repeated | ⟨reservations, reserved, reserving, behind⟩
  · exact Or.inl repeated
  · exact Or.inr ⟨reservations, reserved, reserving, Refused.split behind⟩

end GuestLaunch
