import GuestLaunch.Proofs.BootOrder.Precedence

/-!
The range of the boot indices. The counter stands behind the largest explicit index and moves on by
one for each automatic one, so it leaves the range of an index exactly if there are more automatic
indices than numbers behind the largest explicit one. Validation does not look at that: it accepts
the greatest index of all together with a device that asks for the next one.
-/

namespace GuestLaunch

/-- When the counter of the boot indices overflows. -/
structure CounterRange (settings : BuildSettings) (config : Config) : Prop where
  /-- Every index that is asked for stands behind the explicit ones and the automatic ones before
  it.
  -/
  counter
    : ∀ before after grants state,
        config.requests (settings.host config) = before ++ .number :: after
        → Granted (RunState.initial settings.policy) before grants state
        → numberBehind (state.indices.indices IndexRegistry.bootCategory)
          = numberBehind config.explicitBootIndices + before.count .number
  /-- An assembly stops at the counter exactly where a valid configuration asks for an index and the
  counter has passed the greatest one.
  -/
  overflows
    : (build settings config).outcome
          = .error (.allocation (.noNextIndex IndexRegistry.bootCategory))
        ↔ config.problems = []
          ∧ ∃ before after grants state,
              config.requests (settings.host config) = before ++ .number :: after
              ∧ Granted (RunState.initial settings.policy) before grants state
              ∧ numberBehind config.explicitBootIndices + before.count .number = UInt32.size
  /-- With room for all automatic indices the counter does not overflow. -/
  roomy
    : numberBehind config.explicitBootIndices + config.devices.countP Device.takesIndex
          ≤ UInt32.size
      → (build settings config).outcome
          ≠ .error (.allocation (.noNextIndex IndexRegistry.bootCategory))
  /-- Without room for all of them no invocation is given. -/
  crowded
    : UInt32.size
          < numberBehind config.explicitBootIndices
            + config.devices.countP Device.takesIndex
      → ∀ invocation, (build settings config).outcome ≠ .ok invocation

-----------------------------------------------------------------------------------------
-- The counter along the requests of a configuration
-----------------------------------------------------------------------------------------

namespace Config
variable {config : Config} {host : Host}

/-- What a configuration asks for behind its explicit boot indices reserves none. -/
theorem unreserved_of_mem {request : Request}
    (member : request ∈ (config.plan host).flatMap PlannedDevice.requests
      ++ config.incoming.requests)
    : Unreserved request := by
  rcases List.mem_append.mp member with own | migration
  · exact unreserved_of_plan own
  · exact unreserved_of_incoming migration

theorem number_not_mem_reserveRequests (config : Config)
    : .number ∉ config.reserveRequests := by
  intro member
  obtain ⟨_, _, other⟩ := List.mem_map.mp member
  cases other

/-- A configuration asks for one automatic boot index for each device that takes one. -/
theorem count_number_requests (config : Config) (host : Host)
    : (config.requests host).count .number = config.devices.countP Device.takesIndex := by
  have reserve := List.count_eq_zero.mpr config.number_not_mem_reserveRequests
  have incoming : config.incoming.requests.count .number = 0 := by
    cases config.incoming <;> rfl
  have devices : ((config.plan host).flatMap PlannedDevice.requests).count .number
      = config.devices.countP Device.takesIndex :=
    count_number_plan host config.devices
  rw [requests, List.count_append, List.count_append, reserve, devices, incoming, Nat.zero_add,
    Nat.add_zero]

/-- A request for an automatic boot index has all reservations before it. -/
theorem exists_of_number {before after : List Request}
    (split : config.requests host = before ++ .number :: after)
    : ∃ early,
        before = config.reserveRequests ++ early
        ∧ ∀ request ∈ early, Unreserved request := by
  rw [requests] at split
  rcases List.append_eq_append_iff.mp split with ⟨early, rfl, later⟩ | ⟨rest, reserves, later⟩
  · refine ⟨early, rfl, fun request member => ?_⟩
    have among := List.mem_append_left (.number :: after) member
    rw [← later] at among
    exact unreserved_of_mem among
  · cases rest with
    | nil => exact ⟨[], by rw [reserves, List.append_nil, List.append_nil], by simp⟩
    | cons request rest =>
        obtain ⟨rfl, _⟩ := List.cons.inj later
        refine absurd ?_ config.number_not_mem_reserveRequests
        rw [reserves]
        simp

/-- Before a request for an automatic boot index, the next index stands behind the explicit ones
and the automatic ones that have been given out.
-/
theorem nextIndex_of_granted {policy : CollisionPolicy} {before after : List Request}
    {grants : List Grant} {state : RunState}
    (split : config.requests host = before ++ .number :: after)
    (granted : Granted (RunState.initial policy) before grants state)
    : state.nextIndex = numberBehind config.explicitBootIndices + before.count .number := by
  obtain ⟨early, rfl, unreserved⟩ := exists_of_number split
  obtain ⟨reservations, rest, reserved, rfl, reserving, behind⟩ := Granted.split granted
  have start : reserved.nextIndex = numberBehind config.explicitBootIndices :=
    reserving.nextIndex_reserves.trans (Nat.max_zero _)
  have reserve := List.count_eq_zero.mpr config.number_not_mem_reserveRequests
  rw [(behind.indices_eq unreserved).2, start, List.count_append, reserve, Nat.zero_add]

end Config

-----------------------------------------------------------------------------------------
-- Assemblies
-----------------------------------------------------------------------------------------

/-- An assembly stops at the counter exactly where it asks for an index behind the greatest one. -/
theorem build_noNextIndex_iff {settings : BuildSettings} {config : Config}
    : (build settings config).outcome
          = .error (.allocation (.noNextIndex IndexRegistry.bootCategory))
        ↔ config.problems = []
          ∧ ∃ before after grants state,
              config.requests (settings.host config) = before ++ .number :: after
              ∧ Granted (RunState.initial settings.policy) before grants state
              ∧ numberBehind config.explicitBootIndices + before.count .number
                = UInt32.size := by
  constructor
  · intro stopped
    obtain ⟨valid, final, refused⟩ := build_error_iff.mp stopped
    obtain ⟨before, request, after, grants, split, granted, answer⟩ := refused.exists_answer
    refine ⟨valid, before, after, grants, final, ?_⟩
    cases Request.refusal_of_answer answer with
    | noNextIndex =>
        have last := (Request.number_error_iff.mp answer).1
        rw [← IndexRegistry.numberBehind_eq_size_iff] at last
        exact ⟨split, granted, (Config.nextIndex_of_granted split granted).symm.trans last⟩
  · rintro ⟨valid, before, after, grants, state, split, granted, full⟩
    have last : IndexRegistry.lastIndex
        ∈ state.indices.indices IndexRegistry.bootCategory :=
      IndexRegistry.numberBehind_eq_size_iff.mp
        ((Config.nextIndex_of_granted split granted).trans full)
    have answer := Request.number_error_iff.mpr ⟨last, rfl⟩
    refine build_error_iff.mpr ⟨valid, state, ?_⟩
    rw [split]
    exact granted.refuse (.here answer)

/-- A run that grants everything has had room for all automatic boot indices. -/
theorem GrantedRun.indices_le_size {settings : BuildSettings} {config : Config}
    (run : GrantedRun settings config)
    : numberBehind config.explicitBootIndices + config.devices.countP Device.takesIndex
      ≤ UInt32.size := by
  cases count : config.devices.countP Device.takesIndex with
  | zero => exact numberBehind_le_size _
  | succ more =>
      have numbers := run.indices_eq
      rw [count] at numbers
      have last : numberBehind config.explicitBootIndices + more
          ∈ (grantedIndices run.grants.flatten).map UInt32.toNat := by
        rw [numbers]
        exact List.mem_range'_1.mpr ⟨Nat.le_add_right _ _, by omega⟩
      obtain ⟨index, _, same⟩ := List.mem_map.mp last
      have bound := index.toNat_lt
      have size : UInt32.size = 2 ^ 32 := rfl
      omega

/-- The counter of the boot indices of an assembly overflows exactly where it runs out of range,
which depends on nothing but the explicit boot indices and the number of automatic ones.
-/
theorem counterRange_of_config (settings : BuildSettings) (config : Config)
    : CounterRange settings config := by
  constructor
  case counter =>
    intro before after grants state split granted
    exact Config.nextIndex_of_granted split granted
  case overflows => exact build_noNextIndex_iff
  case roomy =>
    intro room stopped
    obtain ⟨_, before, after, _, _, split, _, full⟩ := build_noNextIndex_iff.mp stopped
    have total := config.count_number_requests (settings.host config)
    rw [split, List.count_append, List.count_cons_self] at total
    omega
  case crowded =>
    intro crowd invocation built
    obtain ⟨_, run, _⟩ := build_ok_iff.mp built
    exact absurd run.indices_le_size (Nat.not_le.mpr crowd)

/-- A guest with a card that has the greatest boot index and a card that asks for the next one. -/
def overflowingGuest : Config where
  netDevices :=
    [{ id := "n0", driver := "virtio-net", bootIndex := some "4294967295" },
      { id := "n1", driver := "virtio-net", bootIndex := some "auto" }]

/-- A valid configuration may make the counter of the boot indices overflow. -/
theorem overflowingGuest_overflows
    : ¬∀ settings config,
        (build settings config).outcome
          ≠ .error (.allocation (.noNextIndex IndexRegistry.bootCategory)) := by
  intro never
  apply never {} overflowingGuest
  decide +kernel

end GuestLaunch
