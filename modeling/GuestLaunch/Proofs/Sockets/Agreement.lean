import GuestLaunch.Proofs.Sockets.Commas
import GuestLaunch.Sockets

/-!
The sockets that are read off a configuration and those on which its command line listens. They
agree but for two kinds of setting whose socket is collected and never listened on.
-/

namespace GuestLaunch

-----------------------------------------------------------------------------------------
-- What listens
-----------------------------------------------------------------------------------------

/-- The path on which a serial port listens, which it does not if it is shared with the
monitor.
-/
def LegacySerial.listenedPath? (port : LegacySerial) : Option String :=
  if port.withMonitor then none else port.endpoint.socketPath?

/-- The path of a serial port whose socket is not listened on. -/
def LegacySerial.silentPath? (port : LegacySerial) : Option String :=
  if port.withMonitor then port.endpoint.socketPath? else none

/-- The path on which a control socket listens, which it does if it is a server. -/
def ControlSocket.listenedPath? (socket : ControlSocket) : Option String :=
  if socket.server then socket.socketPath? else none

/-- The path of a control socket that is not listened on. -/
def ControlSocket.silentPath? (socket : ControlSocket) : Option String :=
  if socket.server then none else socket.socketPath?

/-- The path on which a device listens. -/
def Device.listenedPath? : Device → Option String
  | char device => device.socketPath?
  | legacySerial port => port.listenedPath?
  | monitor device => device.endpoint.socketPath?
  | _ => none

/-- The paths of the sockets that are collected and never listened on. -/
def Config.silentPaths (config : Config) : List String :=
  config.legacySerials.filterMap LegacySerial.silentPath?
    ++ config.controlSockets.filterMap ControlSocket.silentPath?

-----------------------------------------------------------------------------------------
-- Single options
-----------------------------------------------------------------------------------------

theorem CharBackend.eq_socket_of_name {backend : CharBackend} (h : backend.name = "socket")
    : backend = .socket := by
  revert h
  cases backend <;> decide

/-- A text does not go on from a fragment that begins with another character. -/
theorem afterStart?_eq_none {fragment text : String} {first second : Char}
    {more rest : List Char} (own : fragment.toList = first :: more)
    (other : text.toList = second :: rest) (differ : first ≠ second)
    : afterStart? fragment text = none := by
  rw [afterStart?, Text.startsWith, own, other, List.isPrefixOf_cons_cons]
  simp [differ]

/-- The path of a socket is what listens, behind an identifier of any kind. -/
theorem listeningChannel?_socket (id path : String) (rest : List String)
    : listeningChannel?
        ("socket" :: (Param.pair "id" id).text :: (Param.pair "path" path).text :: "server=on"
          :: rest)
      = some path := by
  have other : afterStart? "path=" (Param.pair "id" id).text = none :=
    afterStart?_eq_none rfl (Param.toList_text_pair "id" id) (by decide)
  have own : afterStart? "path=" (Param.pair "path" path).text = some path :=
    afterStart?_append "path=" path
  rw [listeningChannel?, if_pos ⟨rfl, by simp⟩, List.findSome?_cons, other]
  simp only [List.findSome?_cons, own]

/-- A text that begins with another character is not the word for a server. -/
theorem ne_server_of_pair {key value : String} {first : Char} {rest : List Char}
    (own : key.toList = first :: rest) (differ : first ≠ 's')
    : "server=on" ≠ (Param.pair key value).text := by
  intro same
  have texts := congrArg String.toList same
  rw [Param.toList_text_pair, own] at texts
  exact differ (List.cons.inj texts).1.symm

-----------------------------------------------------------------------------------------
-- Devices
-----------------------------------------------------------------------------------------

/-- The endpoint of a character device listens exactly if it is a socket. -/
theorem CharDevice.listeningChannel?_endpointParams (device : CharDevice)
    : listeningChannel? (device.endpointParams.map Param.text) = device.socketPath? := by
  unfold socketPath?
  by_cases socket : device.backend = .socket
  · rw [if_pos socket, endpointParams, pathParams, socket]
    exact listeningChannel?_socket device.id device.path _
  · rw [if_neg socket]
    exact if_neg fun listens => socket (CharBackend.eq_socket_of_name listens.1)

theorem CharDevice.listenedBy_launchOptions (device : CharDevice) (placement : Placement)
    : listenedBy (device.launchOptions placement) = device.socketPath?.toList := by
  have guest : listenedBy (device.guestOptions placement) = [] := by
    unfold guestOptions
    split
    · rfl
    · split
      · rfl
      · rfl
  rw [launchOptions, listenedBy_append, guest, List.nil_append, listenedBy_setting]
  exact congrArg Option.toList device.listeningChannel?_endpointParams

/-- An endpoint of a serial port or a monitor listens exactly if it is a socket. -/
theorem Endpoint.listeningEndpoint?_params (endpoint : Endpoint)
    : listeningEndpoint? (endpoint.params.map Param.text) = endpoint.socketPath? := by
  unfold params socketPath?
  split
  · exact afterStart?_append "unix:" endpoint.path
  · split
    · rfl
    · rfl

/-- The socket of a trusted platform module does not listen, because the module does. -/
theorem Tpm.listenedBy_launchOptions (tpm : Tpm) (architecture : Architecture)
    : listenedBy (tpm.launchOptions architecture) = [] := by
  have silent : "server=on" ∉ [(Param.pair "id" tpm.socketId).text,
      (Param.pair "path" tpm.path).text] := by
    simp only [List.mem_cons, List.not_mem_nil, or_false, not_or]
    exact ⟨ne_server_of_pair rfl (by decide), ne_server_of_pair rfl (by decide)⟩
  have channel : listeningChannel? [CharBackend.socket.name,
      (Param.pair "id" tpm.socketId).text, (Param.pair "path" tpm.path).text] = none := by
    rw [listeningChannel?]
    exact if_neg (mt And.right silent)
  rw [launchOptions, listenedBy_cons]
  exact congrArg (fun path : Option String => path.toList ++ []) channel

/-- The options of a device listen on the path that the device listens on, by its kind. -/
theorem Device.listenedBy_optionsFor (device : Device) (placement : Placement)
    (architecture : Architecture) (grants : List Grant)
    : listenedBy (device.optionsFor placement architecture grants)
      = device.listenedPath?.toList := by
  cases device with
  | char device => exact device.listenedBy_launchOptions placement
  | legacySerial port =>
      show listenedBy port.launchOptions = port.listenedPath?.toList
      rw [LegacySerial.launchOptions, LegacySerial.listenedPath?, listenedBy_setting]
      congr 1
      split
      · rfl
      · exact port.endpoint.listeningEndpoint?_params
  | monitor device =>
      show listenedBy device.launchOptions = device.endpoint.socketPath?.toList
      rw [Monitor.launchOptions, listenedBy_setting]
      exact congrArg Option.toList device.endpoint.listeningEndpoint?_params
  | spice device => rfl
  | tpm device => exact device.listenedBy_launchOptions architecture
  | _ =>
      exact (usesOnly_optionsFor _ _ _ _).listenedBy_eq_nil (by simp [flags, listeningFlags])

-----------------------------------------------------------------------------------------
-- Stages
-----------------------------------------------------------------------------------------

/-- A valid control socket belongs to the unix family. -/
theorem ControlSocket.isUnix_of_valid {socket : ControlSocket} (valid : socket.problem? = none)
    : socket.isUnix = true := by
  rw [isUnix, type_of_valid valid]
  rfl

/-- A valid control socket listens exactly if it is a server. -/
theorem ControlSocket.listenedBy_launchOptions {socket : ControlSocket}
    (valid : socket.problem? = none)
    : listenedBy socket.launchOptions = socket.listenedPath?.toList := by
  have own : afterStart? "unix:" ("unix" ++ ":" ++ socket.name) = some socket.name :=
    afterStart?_append "unix:" socket.name
  rw [listenedPath?, socketPath?, isUnix_of_valid valid, launchOptions, type_of_valid valid,
    listenedBy_setting]
  congr 1
  cases socket.server with
  | false => rfl
  | true => exact own

theorem listenedBy_flatMap_eq_filterMap {α : Type} {items : List α}
    {render : α → List LaunchOption} {path? : α → Option String}
    (each : ∀ item ∈ items, listenedBy (render item) = (path? item).toList)
    : listenedBy (items.flatMap render) = items.filterMap path? := by
  rw [listenedBy_flatMap, List.filterMap_eq_flatMap_toList]
  exact List.flatMap_congr each

/-- Of the stages that use up nothing only that of the control sockets listens, on those that
are servers.
-/
theorem Stage.listenedBy_settings (stage : Stage) {config : Config}
    (valid : config.problems = []) (host : Host)
    : listenedBy (stage.settings config host)
      = if stage = .control then config.controlSockets.filterMap ControlSocket.listenedPath?
        else [] := by
  cases stage with
  | control =>
      exact listenedBy_flatMap_eq_filterMap fun socket member =>
        ControlSocket.listenedBy_launchOptions (Config.controlSocket_of_valid valid member)
  | display =>
      show listenedBy ((config.spice.map Spice.launchOptions).getD []) = []
      cases config.spice with
      | none => rfl
      | some spice => rfl
  | tpm =>
      show listenedBy ((config.tpm.map fun tpm => tpm.launchOptions host.architecture).getD [])
        = []
      cases config.tpm with
      | none => rfl
      | some tpm => exact tpm.listenedBy_launchOptions host.architecture
  | _ => exact (Stage.usesOnly_settings _ config host).listenedBy_eq_nil (by decide)

theorem Migration.listenedBy_optionsFor (source : Migration) (grants : List Grant)
    : listenedBy (source.optionsFor grants) = [] := by
  unfold optionsFor
  cases source.uriFor? grants with
  | none => rfl
  | some uri => rfl

-----------------------------------------------------------------------------------------
-- Assemblies
-----------------------------------------------------------------------------------------

/-- The paths on which the command line of a configuration listens. -/
def Config.listenedPaths (config : Config) : List String :=
  config.controlSockets.filterMap ControlSocket.listenedPath?
    ++ config.devices.filterMap Device.listenedPath?

/-- The options of an assembly listen on the paths of the control sockets and of the devices.
-/
theorem GrantedRun.listenedBy_options {settings : BuildSettings} {config : Config}
    (run : GrantedRun settings config) (valid : config.problems = [])
    : listenedBy run.invocation.options = config.listenedPaths := by
  have stages (list : List Stage)
      : listenedBy (list.flatMap (Stage.settings config (settings.host config)))
        = list.flatMap fun stage =>
            if stage = .control then
              config.controlSockets.filterMap ControlSocket.listenedPath?
            else [] := by
    rw [listenedBy_flatMap]
    exact List.flatMap_congr fun stage _ => stage.listenedBy_settings valid _
  have devices : listenedBy (run.groups .devices).flatten
      = config.devices.filterMap Device.listenedPath? := by
    rw [run.options_devices, ← run.steps_devices, List.filterMap_map]
    refine listenedBy_flatMap_eq_filterMap fun step member => ?_
    obtain ⟨grants, _, rendered⟩ := run.step_granted member
    rw [rendered]
    exact step.planned.device.listenedBy_optionsFor _ _ _
  rw [run.options_eq, listenedBy_append, listenedBy_append, listenedBy_append,
    listenedBy_append, stages, stages, stages, devices, Migration.listenedBy_optionsFor,
    Config.listenedPaths]
  simp [stagesBeforeDevices, stagesBeforeIncoming, stagesAfterIncoming]

/-- What is found in a list is found by the one or by the other of two searches, if every
element is found by one of them only, by induction on the list.
-/
theorem filterMap_perm_append {α β : Type} {items : List α} {whole first second : α → Option β}
    (each
      : ∀ item ∈ items,
          (whole item = first item ∧ second item = none)
          ∨ (whole item = second item ∧ first item = none))
    : (items.filterMap whole).Perm (items.filterMap first ++ items.filterMap second) := by
  induction items with
  | nil => exact .nil
  | cons item rest ih =>
      have later := ih fun other member => each other (List.mem_cons_of_mem _ member)
      rcases each item List.mem_cons_self with ⟨same, none⟩ | ⟨same, none⟩
      · rw [List.filterMap_cons_none none, List.filterMap_cons, List.filterMap_cons, same]
        cases first item with
        | none => exact later
        | some found => exact later.cons found
      · rw [List.filterMap_cons_none none, List.filterMap_cons, List.filterMap_cons, same]
        cases second item with
        | none => exact later
        | some found => exact (later.cons found).trans List.perm_middle.symm

namespace Config

/-- The devices that listen are the character devices, the serial ports and the monitors. -/
theorem filterMap_devices_listenedPath? (config : Config)
    : config.devices.filterMap Device.listenedPath?
      = config.charDevices.filterMap CharDevice.socketPath?
        ++ config.legacySerials.filterMap LegacySerial.listenedPath?
        ++ config.monitors.filterMap fun monitor => monitor.endpoint.socketPath? := by
  simp [devices, Category.all, Category.devices, List.filterMap_map, Function.comp_def,
    Device.listenedPath?]

/-- The paths that are collected are those that are listened on and those that are not. -/
theorem socketPaths_perm (config : Config)
    : config.socketPaths.Perm (config.listenedPaths ++ config.silentPaths) := by
  have serials : (config.legacySerials.filterMap fun port => port.endpoint.socketPath?).Perm
      (config.legacySerials.filterMap LegacySerial.listenedPath?
        ++ config.legacySerials.filterMap LegacySerial.silentPath?) := by
    refine filterMap_perm_append fun port _ => ?_
    rw [LegacySerial.listenedPath?, LegacySerial.silentPath?]
    cases port.withMonitor with
    | true => exact Or.inr ⟨rfl, rfl⟩
    | false => exact Or.inl ⟨rfl, rfl⟩
  have controls : (config.controlSockets.filterMap ControlSocket.socketPath?).Perm
      (config.controlSockets.filterMap ControlSocket.listenedPath?
        ++ config.controlSockets.filterMap ControlSocket.silentPath?) := by
    refine filterMap_perm_append fun socket _ => ?_
    rw [ControlSocket.listenedPath?, ControlSocket.silentPath?]
    cases socket.server with
    | true => exact Or.inl ⟨rfl, rfl⟩
    | false => exact Or.inr ⟨rfl, rfl⟩
  rw [List.perm_iff_count] at serials controls ⊢
  intro path
  have serial := serials path
  have control := controls path
  rw [List.count_append] at serial control
  rw [listenedPaths, filterMap_devices_listenedPath?, silentPaths, socketPaths]
  simp only [List.count_append]
  omega

/-- Every collected socket is listened on exactly if no serial port with a socket is shared
with the monitor and every control socket is a server.
-/
theorem silentPaths_eq_nil_iff {config : Config} (valid : config.problems = [])
    : config.silentPaths = []
      ↔ (∀ port ∈ config.legacySerials,
          port.withMonitor = true → port.endpoint.socketPath? = none)
        ∧ ∀ socket ∈ config.controlSockets, socket.server = true := by
  rw [silentPaths, List.append_eq_nil_iff, List.filterMap_eq_nil_iff,
    List.filterMap_eq_nil_iff]
  refine and_congr ?_ ?_
  · refine forall₂_congr fun port _ => ?_
    rw [LegacySerial.silentPath?]
    cases port.withMonitor <;> simp
  · refine forall₂_congr fun socket member => ?_
    have unix := ControlSocket.isUnix_of_valid (controlSocket_of_valid valid member)
    rw [ControlSocket.silentPath?, ControlSocket.socketPath?, unix]
    cases socket.server <;> simp

end Config

/-- The sockets that are collected from a configuration that is assembled are, up to order,
those on which its options listen and the silent ones. So the two agree exactly if no serial
port with a socket is shared with the monitor and every control socket is a server. The paths
can be read off the arguments if the texts of endpoints hold no commas.
-/
theorem socketPaths_perm_of_build {settings : BuildSettings} {config : Config}
    {invocation : Invocation} (built : (build settings config).outcome = .ok invocation)
    : config.socketPaths.Perm (listenedBy invocation.options ++ config.silentPaths)
      ∧ (config.socketPaths.Perm (listenedBy invocation.options)
          ↔ (∀ port ∈ config.legacySerials,
              port.withMonitor = true → port.endpoint.socketPath? = none)
            ∧ ∀ socket ∈ config.controlSockets, socket.server = true)
      ∧ ((∀ text ∈ config.endpointTexts, CommaFree text)
          → listeningPaths? invocation.arguments = some (listenedBy invocation.options)) := by
  obtain ⟨valid, run, rfl⟩ := build_ok_iff.mp built
  have collected := config.socketPaths_perm
  rw [← Config.silentPaths_eq_nil_iff valid, run.listenedBy_options valid]
  refine ⟨collected, ⟨?_, ?_⟩, ?_⟩
  · intro same
    have lengths := collected.length_eq.symm.trans same.length_eq
    rw [List.length_append] at lengths
    exact List.length_eq_zero_iff.mp (by omega)
  · intro none
    rw [none, List.append_nil] at collected
    exact collected
  · intro plain
    have separable := run.allSeparable_options valid plain
    rw [Invocation.arguments, separable.listeningPaths?_argumentsOf,
      run.listenedBy_options valid]

/-- A guest with one socket of each kind. -/
def socketGuest : Config where
  charDevices := [{ id := "c0", driver := "virtserialport", path := "/run/c0" }]
  monitors := [{ endpoint := { backend := some .socket, path := "/run/monitor" } }]
  legacySerials :=
    [{ endpoint := { name := "stdio" }, withMonitor := true },
      { endpoint := { backend := some .socket, path := "/run/serial" } }]
  controlSockets := [{ name := "/run/control", server := true, noWait := true }]

/-- The sockets of the guest with one of each kind are those on which it listens. -/
theorem socketPaths_perm_socketGuest
    : ∃ invocation,
        (build {} socketGuest).outcome = .ok invocation
        ∧ socketGuest.socketPaths.Perm (listenedBy invocation.options)
        ∧ listeningPaths? invocation.arguments = some (listenedBy invocation.options) := by
  have succeeds : (build {} socketGuest).outcome.toOption.isSome = true := by
    decide +kernel
  obtain ⟨invocation, built⟩ := BuildReport.exists_invocation succeeds
  obtain ⟨_, same, read⟩ := socketPaths_perm_of_build built
  exact ⟨invocation, built, same.mpr (by decide), read (by decide)⟩

/-- A guest that shares a serial port with the monitor although the port has a socket. -/
def sharedPortGuest : Config where
  legacySerials :=
    [{ endpoint := { backend := some .socket, path := "/run/s.sock" }, withMonitor := true }]

/-- The socket of the shared port is collected, and the command line does not listen on it. -/
theorem not_socketPaths_perm_sharedPortGuest
    : ∃ invocation listened,
        (build {} sharedPortGuest).outcome = .ok invocation
        ∧ listeningPaths? invocation.arguments = some listened
        ∧ ¬sharedPortGuest.socketPaths.Perm listened := by
  have succeeds : (build {} sharedPortGuest).outcome.toOption.isSome = true := by
    decide +kernel
  obtain ⟨invocation, built⟩ := BuildReport.exists_invocation succeeds
  obtain ⟨valid, run, rfl⟩ := build_ok_iff.mp built
  have separable := run.allSeparable_options valid (by decide)
  refine ⟨_, _, built, separable.listeningPaths?_argumentsOf, ?_⟩
  rw [run.listenedBy_options valid]
  intro same
  exact absurd same.eq_nil (by decide)

end GuestLaunch
