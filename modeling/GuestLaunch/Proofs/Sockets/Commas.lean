import GuestLaunch.Proofs.Outcome.Validity
import GuestLaunch.Proofs.Placement.RenderTrace
import GuestLaunch.Proofs.Sockets.Listening
import Mathlib.Data.List.Basic
import Mathlib.Data.Option.Basic

/-!
Values that are cut into their parameters again. A comma inside a text ends a piece like any
other, so the listening sockets can be read off the arguments where the texts of endpoints hold
no commas.
-/

namespace GuestLaunch

-----------------------------------------------------------------------------------------
-- Texts without commas
-----------------------------------------------------------------------------------------

/-- A text without a comma, which is one piece of a value. -/
def CommaFree (text : String) : Prop := ',' ∉ text.toList

instance decidableCommaFree (text : String) : Decidable (CommaFree text) :=
  inferInstanceAs (Decidable (',' ∉ text.toList))

theorem CommaFree.append {first second : String} (h : CommaFree first)
    (next : CommaFree second)
    : CommaFree (first ++ second) := by
  rw [CommaFree, String.toList_append]
  exact List.not_mem_append h next

theorem CommaFree.pair {key value : String} (h : CommaFree key) (next : CommaFree value)
    : CommaFree (Param.pair key value).text :=
  (h.append (by decide)).append next

/-- Joined texts hold no comma if none of them does, nor the separator, by induction on them. -/
theorem CommaFree.intercalate {separator : String} (h : CommaFree separator)
    {texts : List String} (each : ∀ text ∈ texts, CommaFree text)
    : CommaFree (separator.intercalate texts) := by
  rw [CommaFree, String.toList_intercalate]
  induction texts with
  | nil => simp
  | cons text rest ih =>
      obtain ⟨own, others⟩ := List.forall_mem_cons.mp each
      cases rest with
      | nil =>
          rw [List.map_singleton, List.intercalate_singleton]
          exact own
      | cons next more =>
          rw [List.map_cons, List.map_cons, List.intercalate_cons_cons, ← List.map_cons]
          exact List.not_mem_append (List.not_mem_append own h) (ih others)

theorem ne_of_mem_of_notMem {mark : Char} {text : List Char} (plain : mark ∉ text)
    : ∀ symbol ∈ text, (symbol != mark) = true := by
  intro symbol member
  refine bne_iff_ne.mpr ?_
  rintro rfl
  exact plain member

/-- A text without a mark is what stands before the first mark behind it. -/
theorem takeWhile_ne_append {mark : Char} {text : List Char} (plain : mark ∉ text)
    (rest : List Char)
    : (text ++ mark :: rest).takeWhile (· != mark) = text := by
  rw [List.takeWhile_append_of_pos (ne_of_mem_of_notMem plain),
    List.takeWhile_cons_of_neg (by simp), List.append_nil]

theorem dropWhile_ne_append {mark : Char} {text : List Char} (plain : mark ∉ text)
    (rest : List Char)
    : (text ++ mark :: rest).dropWhile (· != mark) = mark :: rest := by
  have split := List.takeWhile_append_dropWhile (p := (· != mark)) (l := text ++ mark :: rest)
  rw [takeWhile_ne_append plain] at split
  exact List.append_cancel_left split

/-- The pieces of a value are its parameters, if none of these holds a comma. -/
theorem pieces_joinParams {params : List Param} (some : params ≠ [])
    (plain : ∀ param ∈ params, CommaFree param.text)
    : pieces (LaunchOption.joinParams params) = params.map Param.text := by
  have split : (LaunchOption.joinParams params).toList.splitOn ','
      = (params.map Param.text).map String.toList := by
    rw [LaunchOption.joinParams, String.toList_intercalate]
    refine List.splitOn_intercalate ',' ?_ (by simpa using some)
    intro text member
    obtain ⟨own, listed, rfl⟩ := List.mem_map.mp member
    obtain ⟨param, among, rfl⟩ := List.mem_map.mp listed
    exact plain param among
  rw [pieces, split, List.map_map]
  exact (List.map_congr_left fun text _ => String.ofList_toList).trans (List.map_id _)

-----------------------------------------------------------------------------------------
-- Separable options
-----------------------------------------------------------------------------------------

/-- An option whose value, if the flag is one that may listen, is cut into its parameters
again.
-/
def LaunchOption.Separable : LaunchOption → Prop
  | toggle _ => True
  | setting flag params =>
      flag ∈ listeningFlags → ∀ param ∈ params, CommaFree param.text

/-- A separable option listens where its arguments say so. -/
theorem LaunchOption.Separable.listeningPath?_read {option : LaunchOption}
    (h : option.Separable)
    : option.read.listeningPath? = option.listeningPath? := by
  cases option with
  | toggle switch => rfl
  | setting flag params =>
      show listeningPathIn? flag.spelling (pieces (joinParams params))
        = listeningPathIn? flag.spelling (params.map Param.text)
      by_cases listens : flag ∈ listeningFlags
      · cases params with
        | nil => cases flag <;> rfl
        | cons param rest => rw [pieces_joinParams (List.cons_ne_nil _ _) (h listens)]
      · rw [listeningPathIn?_of_quiet listens, listeningPathIn?_of_quiet listens]

/-- Options that can all be separated. -/
def AllSeparable (options : List LaunchOption) : Prop :=
  ∀ option ∈ options, option.Separable

/-- The paths that are read off the arguments of separable options are those of the options. -/
theorem AllSeparable.listeningPaths?_argumentsOf {options : List LaunchOption}
    (h : AllSeparable options)
    : listeningPaths? (argumentsOf options) = some (listenedBy options) := by
  rw [listeningPaths?, readOptions_argumentsOf, Option.map_some, List.filterMap_map]
  congr 1
  exact List.filterMap_congr fun option member => (h option member).listeningPath?_read

theorem AllSeparable.append {first second : List LaunchOption} (h : AllSeparable first)
    (next : AllSeparable second)
    : AllSeparable (first ++ second) :=
  List.forall_mem_append.mpr ⟨h, next⟩

theorem allSeparable_flatMap {α : Type} {items : List α} {render : α → List LaunchOption}
    (each : ∀ item ∈ items, AllSeparable (render item))
    : AllSeparable (items.flatMap render) := by
  intro option member
  obtain ⟨item, listed, own⟩ := List.mem_flatMap.mp member
  exact each item listed option own

theorem allSeparable_cons {flag : Flag} {params : List Param} {options : List LaunchOption}
    (plain : ∀ param ∈ params, CommaFree param.text) (tail : AllSeparable options)
    : AllSeparable (.setting flag params :: options) :=
  List.forall_mem_cons.mpr ⟨fun _ => plain, tail⟩

theorem allSeparable_setting {flag : Flag} {params : List Param}
    (plain : ∀ param ∈ params, CommaFree param.text)
    : AllSeparable [.setting flag params] :=
  allSeparable_cons plain (List.forall_mem_nil _)

/-- Options that use no listening flag can be separated. -/
theorem UsesOnly.allSeparable {flags : List Flag} {options : List LaunchOption}
    (h : UsesOnly flags options) (quiet : ∀ flag ∈ flags, flag ∉ listeningFlags)
    : AllSeparable options := by
  intro option member
  cases option with
  | toggle switch => trivial
  | setting flag params =>
      exact fun listens => absurd listens (quiet flag (h _ member flag rfl))

-----------------------------------------------------------------------------------------
-- Devices
-----------------------------------------------------------------------------------------

/-- The texts of an endpoint. -/
def Endpoint.texts (endpoint : Endpoint) : List String :=
  [endpoint.name, endpoint.charDeviceId, endpoint.path]

/-- The texts that a device has in the values of listening flags. -/
def Device.endpointTexts : Device → List String
  | char device => [device.id, device.path]
  | legacySerial port => port.endpoint.texts
  | monitor device => device.endpoint.texts
  | tpm device => [device.id, device.path]
  | _ => []

theorem commaFree_listenParams : ∀ param ∈ listenParams, CommaFree param.text := by
  decide

theorem CharBackend.commaFree_name (backend : CharBackend) : CommaFree backend.name := by
  cases backend <;> decide

/-- A property that is present unless empty has no comma if its value is a switch. -/
theorem commaFree_of_checkOnOff {subject field value : String}
    (valid : checkOnOff subject field value = none) {key : String} (plain : CommaFree key)
    : ∀ param ∈ Param.unlessEmpty key value, CommaFree param.text := by
  intro param member
  unfold Param.unlessEmpty at member
  split at member
  · cases member
  · next occupied =>
      obtain rfl := List.mem_singleton.mp member
      have allowed : value = "on" ∨ value = "off" := by
        simpa [checkOnOff, checkOneOf, occupied, ← Decidable.or_iff_not_imp_left] using valid
      rcases allowed with rfl | rfl
      · exact plain.pair (by decide)
      · exact plain.pair (by decide)

/-- The parameters of the endpoint of a valid device have no commas. -/
theorem CharDevice.commaFree_endpointParams {device : CharDevice}
    (valid : device.problem? = none)
    (plain : ∀ text ∈ (Device.char device).endpointTexts, CommaFree text)
    : ∀ param ∈ device.endpointParams, CommaFree param.text := by
  obtain ⟨id, rest⟩ := List.forall_mem_cons.mp plain
  have path : CommaFree device.path := List.forall_mem_singleton.mp rest
  simp only [problem?, Option.orElse_eq_none] at valid
  obtain ⟨_, _, multiplex, signal⟩ := valid
  intro param member
  simp only [endpointParams, List.mem_append, or_assoc] at member
  rcases member with identity | place | mux | sig
  · rcases List.mem_cons.mp identity with rfl | single
    · exact device.backend.commaFree_name
    · obtain rfl := List.mem_singleton.mp single
      exact CommaFree.pair (by decide) id
  · unfold pathParams at place
    split at place
    · rcases List.mem_cons.mp place with rfl | listen
      · exact CommaFree.pair (by decide) path
      · exact commaFree_listenParams param listen
    · obtain rfl := List.mem_singleton.mp place
      exact CommaFree.pair (by decide) path
    · cases place
  · exact commaFree_of_checkOnOff multiplex (by decide) param mux
  · exact commaFree_of_checkOnOff signal (by decide) param sig

theorem CharDevice.allSeparable_guestOptions (device : CharDevice) (placement : Placement)
    : AllSeparable (device.guestOptions placement) := by
  unfold guestOptions
  split
  · exact List.forall_mem_nil _
  · split
    · exact allSeparable_setting (by decide)
    · exact (usesOnly_setting (List.mem_singleton_self _)).allSeparable (by decide)

theorem Endpoint.commaFree_params {endpoint : Endpoint}
    (plain : ∀ text ∈ endpoint.texts, CommaFree text)
    : ∀ param ∈ endpoint.params, CommaFree param.text := by
  obtain ⟨name, charDeviceId, path⟩ : CommaFree endpoint.name
      ∧ CommaFree endpoint.charDeviceId ∧ CommaFree endpoint.path := by
    simpa [texts] using plain
  intro param member
  unfold params at member
  split at member
  · rcases List.mem_cons.mp member with rfl | listen
    · exact CommaFree.append (by decide) path
    · exact commaFree_listenParams param listen
  · split at member
    · obtain rfl := List.mem_singleton.mp member
      exact name
    · obtain rfl := List.mem_singleton.mp member
      exact CommaFree.append (by decide) charDeviceId

theorem Tpm.allSeparable_launchOptions {tpm : Tpm}
    (plain : ∀ text ∈ (Device.tpm tpm).endpointTexts, CommaFree text)
    (architecture : Architecture)
    : AllSeparable (tpm.launchOptions architecture) := by
  obtain ⟨id, rest⟩ := List.forall_mem_cons.mp plain
  have path : CommaFree tpm.path := List.forall_mem_singleton.mp rest
  have channel : ∀ param ∈ [Param.bare CharBackend.socket.name, .pair "id" tpm.socketId,
      .pair "path" tpm.path], CommaFree param.text := by
    simp only [List.forall_mem_cons]
    exact ⟨by decide, CommaFree.pair (by decide) (CommaFree.append (by decide) id),
      CommaFree.pair (by decide) path, List.forall_mem_nil _⟩
  have others : UsesOnly [.tpmdev, .device]
      [.setting .tpmdev [.bare tpm.type, .pair "id" tpm.id, .pair "chardev" tpm.socketId],
        .setting .device [.bare (tpm.deviceName architecture), .pair "tpmdev" tpm.id]] :=
    usesOnly_cons (by decide) (usesOnly_setting (by decide))
  exact allSeparable_cons channel (others.allSeparable (by decide))

theorem Spice.allSeparable_launchOptions (spice : Spice)
    : AllSeparable spice.launchOptions := by
  have others : UsesOnly [.spice, .device]
      [.setting .spice spice.serverParams,
        .setting .device [.bare (Transport.pci.deviceName virtioSerialDriver)],
        .setting .device
          [.bare "virtserialport", .pair "chardev" channelId, .pair "name" portName]] :=
    usesOnly_cons (by decide) (usesOnly_cons (by decide) (usesOnly_setting (by decide)))
  exact (others.allSeparable (by decide)).append (allSeparable_setting (by decide))

/-- The options of a valid device can be separated, by its kind. -/
theorem Device.allSeparable_optionsFor {device : Device} (valid : device.problem? = none)
    (plain : ∀ text ∈ device.endpointTexts, CommaFree text) (placement : Placement)
    (architecture : Architecture) (grants : List Grant)
    : AllSeparable (device.optionsFor placement architecture grants) := by
  cases device with
  | char device =>
      exact (device.allSeparable_guestOptions placement).append
        (allSeparable_setting (CharDevice.commaFree_endpointParams valid plain))
  | legacySerial port =>
      show AllSeparable port.launchOptions
      unfold LegacySerial.launchOptions
      split
      · exact allSeparable_setting (by decide)
      · exact allSeparable_setting (Endpoint.commaFree_params plain)
  | monitor device => exact allSeparable_setting (Endpoint.commaFree_params plain)
  | spice device => exact device.allSeparable_launchOptions
  | tpm device => exact Tpm.allSeparable_launchOptions plain architecture
  | _ => exact (usesOnly_optionsFor _ _ _ _).allSeparable (by simp [flags, listeningFlags])

-----------------------------------------------------------------------------------------
-- Stages
-----------------------------------------------------------------------------------------

/-- The texts of a configuration that stand in the values of listening flags. -/
def Config.endpointTexts (config : Config) : List String :=
  config.devices.flatMap Device.endpointTexts
    ++ config.tpm.toList.flatMap (fun tpm => (Device.tpm tpm).endpointTexts)
    ++ config.controlSockets.map ControlSocket.name

/-- A valid control socket belongs to the unix family. -/
theorem ControlSocket.type_of_valid {socket : ControlSocket} (valid : socket.problem? = none)
    : socket.type = "unix" := by
  simp only [problem?, Option.orElse_eq_none, checkPresent, checkOneOf] at valid
  obtain ⟨typed, _, known⟩ := valid
  cases empty : socket.type.isEmpty with
  | true => simp [empty] at typed
  | false => simpa [empty, unixType] using known

/-- In a configuration without problems every control socket passes its own check. -/
theorem Config.controlSocket_of_valid {config : Config} (valid : config.problems = [])
    {socket : ControlSocket} (member : socket ∈ config.controlSockets)
    : socket.problem? = none := by
  have none : problemsOf (config.controlSockets.map ControlSocket.problem?) = [] := by
    simp only [problems, List.append_eq_nil_iff] at valid
    exact valid.1.1.2
  exact List.filterMap_eq_nil_iff.mp none _ (List.mem_map_of_mem member)

theorem ControlSocket.allSeparable_launchOptions {socket : ControlSocket}
    (valid : socket.problem? = none) (plain : CommaFree socket.name)
    : AllSeparable socket.launchOptions := by
  refine allSeparable_setting (List.forall_mem_append.mpr ⟨?_, ?_⟩)
  · rw [List.forall_mem_singleton, type_of_valid valid]
    exact CommaFree.append (by decide) plain
  · cases socket.server <;> cases socket.noWait <;> decide

/-- The options of a stage that uses up nothing can be separated, by the stage. -/
theorem Stage.allSeparable_settings (stage : Stage) {config : Config}
    (valid : config.problems = []) (plain : ∀ text ∈ config.endpointTexts, CommaFree text)
    (host : Host)
    : AllSeparable (stage.settings config host) := by
  cases stage with
  | control =>
      refine allSeparable_flatMap fun socket member => ?_
      exact ControlSocket.allSeparable_launchOptions
        (Config.controlSocket_of_valid valid member)
        (plain socket.name (List.mem_append_right _ (List.mem_map_of_mem member)))
  | display =>
      show AllSeparable ((config.spice.map Spice.launchOptions).getD [])
      cases config.spice with
      | none => exact List.forall_mem_nil _
      | some spice => exact spice.allSeparable_launchOptions
  | tpm =>
      show AllSeparable
        ((config.tpm.map fun tpm => tpm.launchOptions host.architecture).getD [])
      cases own : config.tpm with
      | none => exact List.forall_mem_nil _
      | some tpm =>
          refine Tpm.allSeparable_launchOptions (fun text member => ?_) host.architecture
          refine plain text (List.mem_append_left _ (List.mem_append_right _ ?_))
          exact List.mem_flatMap.mpr ⟨tpm, by simp [own], member⟩
  | _ => exact (Stage.usesOnly_settings _ config host).allSeparable (by decide)

theorem Migration.allSeparable_optionsFor (source : Migration) (grants : List Grant)
    : AllSeparable (source.optionsFor grants) := by
  unfold optionsFor
  cases source.uriFor? grants with
  | none => exact List.forall_mem_nil _
  | some uri =>
      have uses : UsesOnly [.incoming] [.value .incoming uri] := usesOnly_setting (by decide)
      exact List.forall_mem_cons.mpr ⟨trivial, uses.allSeparable (by decide)⟩

/-- The options of an assembly can be separated if the texts of endpoints hold no commas. -/
theorem GrantedRun.allSeparable_options {settings : BuildSettings} {config : Config}
    (run : GrantedRun settings config) (valid : config.problems = [])
    (plain : ∀ text ∈ config.endpointTexts, CommaFree text)
    : AllSeparable run.invocation.options := by
  refine run.forall_mem_options (fun stage => stage.allSeparable_settings valid plain _)
    (fun step member => ?_) (config.incoming.allSeparable_optionsFor _)
  have planned := run.device_mem_devices member
  obtain ⟨grants, _, rendered⟩ := run.step_granted member
  rw [rendered]
  refine Device.allSeparable_optionsFor (Config.problem?_of_valid valid planned)
    (fun text own => ?_) _ _ _
  refine plain text (List.mem_append_left _ (List.mem_append_left _ ?_))
  exact List.mem_flatMap.mpr ⟨step.planned.device, planned, own⟩

end GuestLaunch
