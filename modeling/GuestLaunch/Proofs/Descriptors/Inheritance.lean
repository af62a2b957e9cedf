import GuestLaunch.Proofs.Descriptors.Readback

/-!
Inheritance of descriptors. The lists that the options of a command line name are those of the
configuration, numbered in the order of the table of descriptors that the child inherits.
-/

namespace GuestLaunch
open Text

-----------------------------------------------------------------------------------------
-- The lists of a configuration and their numbers
-----------------------------------------------------------------------------------------

/-- A list of descriptors in its place, unless it is empty. -/
def placedUnlessEmpty (place : DescriptorPlace) (descriptors : List Int32)
    : PlacedLists Int32 :=
  if descriptors = [] then [] else [(place, descriptors)]

/-- The lists of descriptors of a network device: of the accelerator, then of the interface. -/
def NetDevice.placedLists (device : NetDevice) : PlacedLists Int32 :=
  if device.isSkipped || device.type.backendKeyword?.isNone then []
  else
    placedUnlessEmpty (.backend device.id vhostKey) device.vhostDescriptors
      ++ placedUnlessEmpty (.backend device.id queueKey) device.queueDescriptors

def Device.placedLists : Device → PlacedLists Int32
  | net device => device.placedLists
  | _ => []

def Migration.placedLists : Migration → PlacedLists Int32
  | descriptor host => [(.migration, [host])]
  | _ => []

/-- The lists of descriptors of a configuration: of its network devices in their order, and of
the migration.
-/
def Config.placedLists (config : Config) : PlacedLists Int32 :=
  config.netDevices.flatMap NetDevice.placedLists ++ config.incoming.placedLists

/-- The numbers that the child sees for lists of descriptors, the first of which stands at a
position of the table.
-/
def numberedFrom (position : Nat) : PlacedLists Int32 → PlacedLists Nat
  | [] => []
  | (place, descriptors) :: rest =>
      (place, childNumbers position descriptors.length)
        :: numberedFrom (position + descriptors.length) rest

/-- Lists behind others are numbered behind them, by induction on the lists before. -/
theorem numberedFrom_append (position : Nat) (first second : PlacedLists Int32)
    : numberedFrom position (first ++ second)
      = numberedFrom position first
        ++ numberedFrom (position + (entriesOf first).length) second := by
  induction first generalizing position with
  | nil => rfl
  | cons list rest ih =>
      obtain ⟨place, descriptors⟩ := list
      rw [List.cons_append, numberedFrom, numberedFrom, ih, entriesOf_cons,
        List.length_append, Nat.add_assoc, List.cons_append]

/-- All numbers of lists are the next ones of the child, by induction on the lists. -/
theorem entriesOf_numberedFrom (position : Nat) (lists : PlacedLists Int32)
    : entriesOf (numberedFrom position lists)
      = childNumbers position (entriesOf lists).length := by
  induction lists generalizing position with
  | nil => rfl
  | cons list rest ih =>
      obtain ⟨place, descriptors⟩ := list
      rw [numberedFrom, entriesOf_cons, entriesOf_cons, ih, List.length_append, childNumbers,
        childNumbers, childNumbers, ← List.map_append, List.range'_append_1]

/-- In a table that is not too long, the child sees the positions shifted by the number of its
own descriptors.
-/
theorem childNumbers_eq {position count : Nat}
    (few : position + count < UInt32.size - firstChildDescriptor)
    : childNumbers position count = List.range' (firstChildDescriptor + position) count := by
  have shifted : List.range' (firstChildDescriptor + position) count
      = (List.range' position count).map (firstChildDescriptor + ·) :=
    (List.map_add_range' ..).symm
  rw [childNumbers, shifted]
  apply List.map_congr_left
  intro own member
  have within := (List.mem_range'_1.mp member).2
  simp only [firstChildDescriptor, UInt32.size] at few
  simp only [childDescriptor, firstChildDescriptor, lastChildDescriptor, UInt32.size]
  omega

/-- The numbers of the next positions name the entries of the table there. -/
theorem map_childNumbers (table : List Int32) (before descriptors after : List Int32)
    (split : table = before ++ descriptors ++ after)
    (few : table.length < UInt32.size - firstChildDescriptor)
    : (childNumbers before.length descriptors.length).map
          (fun number => table[number - firstChildDescriptor]?)
      = descriptors.map some := by
  have length : table.length = before.length + descriptors.length + after.length := by
    rw [split, List.length_append, List.length_append]
  rw [childNumbers_eq (by omega)]
  refine List.ext_getElem (by simp) ?_
  intro position bound within
  have inside : position < descriptors.length := by simpa using within
  have number : firstChildDescriptor + before.length + position - firstChildDescriptor
      = before.length + position := by
    omega
  simp only [List.getElem_map, List.getElem_range', Nat.one_mul, number, split]
  rw [List.append_assoc, List.getElem?_append_right (by omega), Nat.add_sub_cancel_left,
    List.getElem?_append_left inside, List.getElem?_eq_getElem inside]

/-- The numbers of lists name the entries of the lists, by induction on the lists. -/
theorem map_numberedFrom (table before after : List Int32) (lists : PlacedLists Int32)
    (split : table = before ++ entriesOf lists ++ after)
    (few : table.length < UInt32.size - firstChildDescriptor)
    : (numberedFrom before.length lists).map
          (fun list =>
            (list.1, list.2.map fun number => table[number - firstChildDescriptor]?))
      = lists.map fun list => (list.1, list.2.map some) := by
  induction lists generalizing before with
  | nil => rfl
  | cons list rest ih =>
      obtain ⟨place, descriptors⟩ := list
      rw [entriesOf_cons] at split
      have head := map_childNumbers table before descriptors (entriesOf rest ++ after)
        (by rw [split]; simp only [List.append_assoc]) few
      have tail := ih (before ++ descriptors)
        (by rw [split]; simp only [List.append_assoc])
      rw [List.length_append] at tail
      rw [numberedFrom, List.map_cons, List.map_cons, head, tail]

-----------------------------------------------------------------------------------------
-- Reading the options of a network device and of a migration
-----------------------------------------------------------------------------------------

namespace NetDevice

theorem vhostKey_ne_queueKey : vhostKey ≠ queueKey := by decide

/-- The other parameters of a backend name no descriptors, because none of their keys is that of a
list.
-/
theorem placedList?_namedParams (device : NetDevice) (id : String)
    : device.namedParams.filterMap (Param.placedList? id) = [] := by
  have other : ∀ key ∈ namedKeys, ¬(key = vhostKey ∨ key = queueKey) := by decide
  apply List.filterMap_eq_nil_iff.mpr
  intro param member
  obtain ⟨key, listed, text, _, rfl⟩ := exists_pair_of_mem_namedParams member
  exact if_neg (other key listed)

/-- The parameter of a list of descriptors is read as the numbers that are granted for it. -/
theorem placedList?_inheritedParams {key id : String} {descriptors : List Int32}
    {grants : List Grant} {position : Nat} (listed : key = vhostKey ∨ key = queueKey)
    (granted
      : descriptors ≠ []
        → numbersIn? key grants = some (childNumbers position descriptors.length))
    : (inheritedParams key descriptors grants).filterMap (Param.placedList? id)
      = numberedFrom position (placedUnlessEmpty (.backend id key) descriptors) := by
  by_cases none : descriptors = []
  · rw [inheritedParams, placedUnlessEmpty, if_pos none, if_pos none]
    rfl
  · have some : descriptors.length ≠ 0 := mt List.eq_nil_of_length_eq_zero none
    have read := readNumbers?_childNumbers some position
    rw [inheritedParams, placedUnlessEmpty, if_neg none, if_neg none, granted none]
    have list : Param.placedList? id
        (descriptorParam key (childNumbers position descriptors.length))
        = Option.some (.backend id key, childNumbers position descriptors.length) := by
      rw [descriptorParam, Param.placedList?, if_pos listed, read]
      rfl
    show [descriptorParam key _].filterMap (Param.placedList? id) = _
    rw [List.filterMap_cons_some list]
    rfl

theorem id_of_backendParamsFor (device : NetDevice) (keyword : String) (grants : List Grant)
    : (device.backendParamsFor keyword grants).findSome? (Param.valueUnder? "id")
      = some device.id :=
  rfl

/-- The lists of a backend are read from its two lists of inherited descriptors. -/
theorem readLists_backendOptionsFor {device : NetDevice} {keyword : String}
    (kind : device.type.backendKeyword? = some keyword) (grants : List Grant)
    : readLists (device.backendOptionsFor grants)
      = (inheritedParams vhostKey device.vhostDescriptors grants).filterMap
            (Param.placedList? device.id)
        ++ (inheritedParams queueKey device.queueDescriptors grants).filterMap
            (Param.placedList? device.id) := by
  have head : [Param.bare keyword, .pair "id" device.id].filterMap
      (Param.placedList? device.id) = [] :=
    rfl
  have switch : (Param.onWhen "vhost" device.vhost).filterMap
      (Param.placedList? device.id) = [] := by
    cases device.vhost <;> rfl
  have option : readLists (device.backendOptionsFor grants)
      = (device.backendParamsFor keyword grants).filterMap
          (Param.placedList? device.id) := by
    have id := device.id_of_backendParamsFor keyword grants
    simp only [readLists, backendOptionsFor, kind, List.flatMap_cons, List.flatMap_nil,
      List.append_nil, LaunchOption.placedLists, id, Option.getD_some]
  rw [option, backendParamsFor]
  simp only [List.filterMap_append, head, switch, device.placedList?_namedParams, List.nil_append,
    List.append_nil]

/-- The entries of the list of a backend are its descriptors. -/
theorem entriesOf_placedUnlessEmpty (place : DescriptorPlace) (descriptors : List Int32)
    : entriesOf (placedUnlessEmpty place descriptors) = descriptors := by
  by_cases none : descriptors = []
  · rw [placedUnlessEmpty, if_pos none, none]
    rfl
  · rw [placedUnlessEmpty, if_neg none]
    exact List.append_nil _

/-- The lists of a network device are read from its options as they are numbered behind the
table before it: the numbers of its first list are granted first.
-/
theorem readLists_optionsFor {device : NetDevice} {state next : RunState}
    {grants : List Grant} (h : Granted state device.requests grants next)
    (placement : Placement)
    : readLists (device.optionsFor placement grants)
      = numberedFrom state.descriptors.length device.placedLists := by
  by_cases skipped : device.isSkipped
  · rw [optionsFor, if_pos skipped, placedLists, skipped]
    rfl
  · have silent := device.silent_cardOptionsFor placement grants
    rw [requests, if_neg skipped] at h
    obtain ⟨own, behind, middle, rfl, backend, _⟩ := Granted.split h
    rw [optionsFor, if_neg skipped, readLists_append, silent.readLists_eq_nil,
      List.append_nil]
    cases kind : device.type.backendKeyword? with
    | none =>
        simp only [backendOptionsFor, placedLists, kind, Option.isNone_none, Bool.or_true,
          if_true]
        rfl
    | some keyword =>
        simp only [backendRequests, kind] at backend
        obtain ⟨first, second, between, rfl, vhost, queues⟩ := Granted.split backend
        have table : between.descriptors.length
            = state.descriptors.length + device.vhostDescriptors.length := by
          rw [vhost.descriptors_eq, inheritedDescriptors_inheritRequests, List.length_append]
        have firstGrants := vhost.inherit_grants
        have secondGrants := queues.inherit_grants
        rw [table] at secondGrants
        have unskipped : (device.isSkipped || (some keyword).isNone) = false := by
          simpa using skipped
        have listed : device.placedLists
            = placedUnlessEmpty (.backend device.id vhostKey) device.vhostDescriptors
              ++ placedUnlessEmpty (.backend device.id queueKey)
                device.queueDescriptors := by
          rw [placedLists, kind, unskipped]
          rfl
        rw [readLists_backendOptionsFor kind, listed, numberedFrom_append,
          entriesOf_placedUnlessEmpty]
        congr 1
        · refine placedList?_inheritedParams (Or.inl rfl) ?_
          intro some
          rw [if_neg some] at firstGrants
          simp [firstGrants]
        · refine placedList?_inheritedParams (Or.inr rfl) ?_
          intro some
          rw [if_neg some] at secondGrants
          by_cases none : device.vhostDescriptors = []
          · rw [if_pos none] at firstGrants
            simp [firstGrants, secondGrants]
          · rw [if_neg none] at firstGrants
            simp [firstGrants, secondGrants, vhostKey_ne_queueKey]

/-- The descriptors that a network device inherits are those of its lists. -/
theorem inheritedDescriptors_requests (device : NetDevice)
    : inheritedDescriptors device.requests = entriesOf device.placedLists := by
  have card : inheritedDescriptors device.cardRequests = [] := by
    apply List.flatMap_eq_nil_iff.mpr
    intro request member
    unfold cardRequests slotRequests indexRequests at member
    cases request with
    | inherit key descriptors => simp at member
    | _ => rfl
  by_cases skipped : device.isSkipped
  · rw [requests, if_pos skipped, placedLists, skipped]
    rfl
  · rw [requests, if_neg skipped, inheritedDescriptors_append, card, List.append_nil]
    cases kind : device.type.backendKeyword? with
    | none =>
        simp only [backendRequests, placedLists, kind, Option.isNone_none, Bool.or_true,
          if_true]
        rfl
    | some keyword =>
        have unskipped : (device.isSkipped || (some keyword).isNone) = false := by
          simpa using skipped
        rw [placedLists, kind, unskipped]
        simp only [backendRequests, kind, inheritedDescriptors_append,
          inheritedDescriptors_inheritRequests, Bool.false_eq_true, if_false,
          entriesOf_append, entriesOf_placedUnlessEmpty]

end NetDevice

/-- The descriptors that a device inherits are those of its lists, by the kind of the device. -/
theorem Device.inheritedDescriptors_requests (device : Device) (transport : Transport)
    : inheritedDescriptors (device.requests transport) = entriesOf device.placedLists := by
  cases device with
  | net device => exact device.inheritedDescriptors_requests
  | rootPort device =>
      show inheritedDescriptors (claimRequests _ _) = []
      unfold claimRequests
      cases rootSlotOf? _ _ <;> rfl
  | bridge device =>
      show inheritedDescriptors (claimRequests _ _) = []
      unfold claimRequests
      cases rootSlotOf? _ _ <;> rfl
  | scsi device =>
      show inheritedDescriptors (slotRequests _) = []
      cases device.slotAddress? transport <;> rfl
  | disk device =>
      show inheritedDescriptors (device.requests transport) = []
      unfold Disk.requests indexRequests
      apply List.flatMap_eq_nil_iff.mpr
      intro request member
      cases request with
      | inherit key descriptors => simp [slotRequests] at member
      | _ => rfl
  | entropy device =>
      show inheritedDescriptors (slotRequests _) = []
      cases device.slotAddress? transport <;> rfl
  | _ => rfl

/-- The lists of a device are read from its options as they are numbered behind the table
before it.
-/
theorem Device.readLists_optionsFor {device : Device} {transport : Transport}
    {state next : RunState} {grants : List Grant}
    (h : Granted state (device.requests transport) grants next) (placement : Placement)
    (architecture : Architecture)
    : readLists (device.optionsFor placement architecture grants)
      = numberedFrom state.descriptors.length device.placedLists := by
  by_cases card : ∃ own, device = .net own
  · obtain ⟨own, rfl⟩ := card
    exact NetDevice.readLists_optionsFor h placement
  · have other : ∀ own, device ≠ .net own := not_exists.mp card
    have silent := Device.silent_optionsFor other placement architecture grants
    have none : device.placedLists = [] := by
      cases device with
      | net own => exact absurd rfl (other own)
      | _ => rfl
    rw [silent.readLists_eq_nil, none]
    rfl

/-- The number of the descriptor of a migration is read back. -/
theorem readSource?_descriptor {number : Nat} (small : number < UInt32.size)
    : readSource? ("fd:" ++ decimal number) = some number := by
  have digits : ("fd:" ++ decimal number).toList
      = 'f' :: 'd' :: ':' :: Numeral.write 10 number := by
    have own : (decimal number).toList = Numeral.write 10 number := String.toList_ofList
    rw [String.toList_append, own]
    rfl
  rw [readSource?, digits]
  exact Numeral.natural?_write small

/-- The list of a migration is read from its options as it is numbered behind the table before
it, by the kind of the source.
-/
theorem Migration.readLists_optionsFor {source : Migration} {state next : RunState}
    {grants : List Grant} (h : Granted state source.requests grants next)
    : readLists (source.optionsFor grants)
      = numberedFrom state.descriptors.length source.placedLists := by
  cases source with
  | absent => rfl
  | command line =>
      have unread : readSource? ("exec:" ++ line) = none := by
        rw [readSource?, String.toList_append]
        rfl
      have nothing : Param.sourceList? (.bare ("exec:" ++ line)) = none := by
        rw [Param.sourceList?, unread]
        rfl
      show [Param.bare ("exec:" ++ line)].filterMap Param.sourceList? ++ [] = []
      rw [List.filterMap_cons_none nothing]
      rfl
  | deferred => rfl
  | descriptor host =>
      have number := readSource?_descriptor (childDescriptor_lt state.descriptors.length)
      cases h with
      | cons first later =>
          cases later
          obtain ⟨⟩ := Request.answered_of_ok first
          have named : Param.sourceList?
              (.bare ("fd:" ++ decimal (childDescriptor state.descriptors.length)))
              = some (.migration, [childDescriptor state.descriptors.length]) := by
            rw [Param.sourceList?, number]
            rfl
          show [Param.bare
              ("fd:" ++ decimal (childDescriptor state.descriptors.length))].filterMap
                Param.sourceList? ++ [] = _
          rw [List.filterMap_cons_some named]
          rfl

/-- The descriptor that a migration inherits is that of its list. -/
theorem Migration.inheritedDescriptors_requests (source : Migration)
    : inheritedDescriptors source.requests = entriesOf source.placedLists := by
  cases source <;> rfl

-----------------------------------------------------------------------------------------
-- Reading the options of an assembly
-----------------------------------------------------------------------------------------

/-- The lists of a plan are read from its options as they are numbered behind the table before
it, by induction on the plan.
-/
theorem PlanGranted.readLists_planOptions {state final : RunState}
    {plan : List PlannedDevice} {grants : List (List Grant)}
    (h : PlanGranted state plan grants final) (architecture : Architecture)
    (iommuPlatform : Bool)
    : readLists (planOptions architecture iommuPlatform plan grants).flatten
      = numberedFrom state.descriptors.length
          (plan.flatMap fun planned => planned.device.placedLists) := by
  induction h with
  | nil => rfl
  | @cons state next final planned rest grants more first _ ih =>
      have head := Device.readLists_optionsFor first (planned.placement iommuPlatform)
        architecture
      have table : next.descriptors.length
          = state.descriptors.length + (entriesOf planned.device.placedLists).length := by
        rw [first.descriptors_eq, PlannedDevice.requests,
          Device.inheritedDescriptors_requests, List.length_append]
      have options : planOptions architecture iommuPlatform (planned :: rest) (grants :: more)
          = planned.device.optionsFor (planned.placement iommuPlatform) architecture grants
            :: planOptions architecture iommuPlatform rest more :=
        rfl
      rw [options, List.flatten_cons, readLists_append, head, ih, List.flatMap_cons,
        numberedFrom_append, table]

/-- The lists of a plan are those of the network devices of the configuration. -/
theorem Config.placedLists_plan (config : Config) (host : Host)
    : (config.plan host).flatMap (fun planned => planned.device.placedLists)
      = config.netDevices.flatMap NetDevice.placedLists := by
  have empty {β : Type} (items : List β)
      : items.flatMap (fun _ => ([] : PlacedLists Int32)) = [] :=
    List.flatMap_eq_nil_iff.mpr fun _ _ => rfl
  simp [Config.plan, Config.devices, Category.all, Category.devices, List.flatMap_map,
    PlannedDevice.of, Device.placedLists, empty]

/-- Stages that use up nothing name no descriptors. -/
theorem readLists_settings (stages : List Stage) (config : Config) (host : Host)
    : readLists (stages.flatMap (Stage.settings config host)) = [] := by
  apply Silent.readLists_eq_nil
  exact silent_flatMap fun stage _ => stage.silent_settings config host

namespace GrantedRun
variable {settings : BuildSettings} {config : Config}

/-- The table of a run before its devices are rendered is empty. -/
theorem descriptors_reserved (run : GrantedRun settings config)
    : run.reserved.descriptors = [] := by
  have none : inheritedDescriptors config.reserveRequests = [] := by
    apply List.flatMap_eq_nil_iff.mpr
    intro request member
    obtain ⟨index, _, rfl⟩ := List.mem_map.mp member
    rfl
  rw [run.reserve_granted.descriptors_eq, none]
  rfl

/-- The table once the devices are rendered holds the lists of the network devices. -/
theorem descriptors_placed (run : GrantedRun settings config)
    : run.placed.descriptors
      = entriesOf (config.netDevices.flatMap NetDevice.placedLists) := by
  have devices : inheritedDescriptors
      ((config.plan (settings.host config)).flatMap PlannedDevice.requests)
      = entriesOf ((config.plan (settings.host config)).flatMap fun planned =>
          planned.device.placedLists) := by
    rw [inheritedDescriptors, entriesOf, List.flatMap_assoc, List.flatMap_assoc]
    congr 1
    funext planned
    exact planned.device.inheritedDescriptors_requests planned.transport
  rw [run.devices_granted.granted.descriptors_eq, run.descriptors_reserved, devices,
    Config.placedLists_plan, List.nil_append]

/-- The table at the end holds the lists of the configuration. -/
theorem descriptors_final (run : GrantedRun settings config)
    : run.final.descriptors = entriesOf config.placedLists := by
  rw [run.incoming_granted.descriptors_eq, run.descriptors_placed,
    Migration.inheritedDescriptors_requests, Config.placedLists, entriesOf_append]

/-- The lists of a configuration are read from its command line as they are numbered in the
table, because no other stage names descriptors.
-/
theorem readLists_invocation (run : GrantedRun settings config)
    : readLists run.invocation.options = numberedFrom 0 config.placedLists := by
  have devices : readLists (run.groups .devices).flatten
      = numberedFrom 0 (config.netDevices.flatMap NetDevice.placedLists) := by
    have read := run.devices_granted.readLists_planOptions settings.architecture
      config.knobs.iommuPlatform
    rw [run.descriptors_reserved, Config.placedLists_plan] at read
    exact read
  have incoming : readLists (config.incoming.optionsFor run.incoming)
      = numberedFrom (entriesOf (config.netDevices.flatMap NetDevice.placedLists)).length
          config.incoming.placedLists := by
    rw [Migration.readLists_optionsFor run.incoming_granted, run.descriptors_placed]
  rw [run.options_eq]
  simp only [readLists_append, readLists_settings, devices, incoming, Config.placedLists,
    numberedFrom_append, Nat.zero_add, List.nil_append, List.append_nil]

end GrantedRun

end GuestLaunch
