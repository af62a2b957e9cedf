import GuestLaunch.Proofs.Descriptors.BackendValues

/-!
Reading descriptors off the pieces between the commas of arguments. Such a reader knows nothing of
the configuration, so a comma in a text of a network device may mislead it. Where there is none, it
finds the lists that the options name.
-/

namespace GuestLaunch
open LaunchOption (joinParams)

/-- Reads the list of descriptors that a piece of the value of a backend names. -/
def placedPiece? (id piece : String) : Option (DescriptorPlace × List Nat) :=
  let under (key : String) :=
    ((afterStart? (key ++ "=") piece).bind readNumbers?).map fun numbers =>
      (DescriptorPlace.backend id key, numbers)
  under "vhostfds" <|> under "fds"

/-- Reads the lists of descriptors that an option names, by the pieces of its value. -/
def ReadOption.placedLists (option : ReadOption) : PlacedLists Nat :=
  match option.argument with
  | none => []
  | some value =>
      if option.word = "-netdev" then
        let id := ((pieces value).findSome? (afterStart? "id=")).getD ""
        (pieces value).filterMap (placedPiece? id)
      else if option.word = "-incoming" then sourceLists value
      else []

/-- Reads the lists of descriptors that arguments name, in their order. -/
def listsInPieces? (arguments : List String) : Option (PlacedLists Nat) :=
  (readOptions arguments).map (List.flatMap ReadOption.placedLists)

/-- The texts that the network devices of a configuration have in the values of their backends. -/
def Config.backendTexts (config : Config) : List String :=
  config.netDevices.flatMap fun device => device.id :: device.namedTexts

-----------------------------------------------------------------------------------------
-- Pieces
-----------------------------------------------------------------------------------------

/-- A parameter without a comma, in which an equals sign ends the key of a property only. -/
def Param.IsPiece : Param → Prop
  | bare text => CommaFree text ∧ '=' ∉ text.toList
  | pair key value => '=' ∉ key.toList ∧ CommaFree key ∧ CommaFree value

theorem Param.IsPiece.commaFree {param : Param} (h : param.IsPiece) : CommaFree param.text := by
  cases param with
  | bare text => exact h.1
  | pair key value => exact h.2.1.pair h.2.2

/-- The piece of a property is told by its key. -/
theorem Param.IsPiece.afterStart?_text {param : Param} (h : param.IsPiece) {key : String}
    (keyed : '=' ∉ key.toList)
    : afterStart? (key ++ "=") param.text = param.valueUnder? key := by
  cases param with
  | bare text =>
      refine afterStart?_eq_none_iff.mpr fun starts => h.2 ?_
      exact starts.subset (by simp)
  | pair own value =>
      by_cases same : own = key
      · subst same
        rw [text, afterStart?_append, valueUnder?, if_pos rfl]
      · rw [valueUnder?, if_neg same]
        refine afterStart?_eq_none_iff.mpr fun starts => same ?_
        rw [toList_text_pair] at starts
        exact key_eq_of_starts keyed h.1 starts

/-- The piece of a parameter names the list that the parameter names. -/
theorem Param.IsPiece.placedPiece?_text {param : Param} (h : param.IsPiece) (id : String)
    : placedPiece? id param.text = param.placedList? id := by
  have vhost : afterStart? ("vhostfds" ++ "=") param.text = param.valueUnder? "vhostfds" :=
    h.afterStart?_text (by decide)
  have queues : afterStart? ("fds" ++ "=") param.text = param.valueUnder? "fds" :=
    h.afterStart?_text (by decide)
  simp only [placedPiece?, vhost, queues]
  cases param with
  | bare text => rfl
  | pair key value =>
      simp only [Param.valueUnder?, Param.placedList?, NetDevice.vhostKey, NetDevice.queueKey]
      by_cases first : key = "vhostfds"
      · simp [first]
      · by_cases second : key = "fds" <;> simp [first, second]

/-- An option whose value, if its flag is one that names descriptors, is cut into its parameters. -/
def LaunchOption.InPieces : LaunchOption → Prop
  | setting .netdev params => params ≠ [] ∧ ∀ param ∈ params, param.IsPiece
  | setting .incoming params => ∃ uri, params = [.bare uri]
  | _ => True

/-- The pieces of an option name the lists that the option names, by its flag. -/
theorem LaunchOption.InPieces.placedLists_read {option : LaunchOption} (h : option.InPieces)
    : option.read.placedLists = option.placedLists := by
  cases option with
  | toggle switch => rfl
  | setting flag params =>
      cases flag with
      | netdev =>
          obtain ⟨present, each⟩ := h
          have cut : pieces (joinParams params) = params.map Param.text :=
            pieces_joinParams present fun param member => (each param member).commaFree
          have id : (params.map Param.text).findSome? (afterStart? "id=")
              = params.findSome? (Param.valueUnder? "id") := by
            rw [← List.head?_filterMap, ← List.head?_filterMap, List.filterMap_map]
            congr 1
            exact List.filterMap_congr fun param member =>
              @Param.IsPiece.afterStart?_text param (each param member) "id" (by decide)
          show (pieces (joinParams params)).filterMap (placedPiece?
              (((pieces (joinParams params)).findSome? (afterStart? "id=")).getD ""))
            = params.filterMap (Param.placedList?
              ((params.findSome? (Param.valueUnder? "id")).getD ""))
          rw [cut, id, List.filterMap_map]
          exact List.filterMap_congr fun param member => (each param member).placedPiece?_text _
      | incoming =>
          obtain ⟨uri, rfl⟩ := h
          exact sourceLists_joinParams uri
      | _ => rfl

theorem LaunchOption.inPieces_of_isSilent {option : LaunchOption} (silent : option.isSilent = true)
    : option.InPieces := by
  cases option with
  | toggle switch => trivial
  | setting flag params =>
      cases flag with
      | netdev | incoming => cases silent
      | _ => trivial

-----------------------------------------------------------------------------------------
-- Assemblies
-----------------------------------------------------------------------------------------

namespace NetDevice

/-- The parameters of a backend are pieces where its texts hold no comma. -/
theorem isPiece_backendParamsFor {device : NetDevice} {keyword : String}
    (kind : device.type.backendKeyword? = some keyword) (id : CommaFree device.id)
    (plain : ∀ text ∈ device.namedTexts, CommaFree text) (grants : List Grant)
    : ∀ param ∈ device.backendParamsFor keyword grants, param.IsPiece := by
  have list {key : String} (keyed : '=' ∉ key.toList) (keyPlain : CommaFree key)
      (descriptors : List Int32)
      : ∀ param ∈ inheritedParams key descriptors grants, param.IsPiece := by
    obtain ⟨value, params, valuePlain⟩ := exists_inheritedParams_eq key descriptors grants
    intro param member
    rw [params] at member
    obtain ⟨text, own, rfl⟩ := Option.map_eq_some_iff.mp (Option.mem_toList.mp member)
    exact ⟨keyed, keyPlain, valuePlain text own⟩
  intro param member
  simp only [backendParamsFor, List.mem_append, or_assoc] at member
  rcases member with identity | switch | vhost | queues | named
  · rcases List.mem_cons.mp identity with rfl | single
    · cases type : device.type <;> rw [type] at kind <;> cases kind <;>
        exact ⟨by decide, by decide⟩
    · obtain rfl := List.mem_singleton.mp single
      exact ⟨by decide, by decide, id⟩
  · unfold Param.onWhen at switch
    split at switch
    · obtain rfl := List.mem_singleton.mp switch
      exact ⟨by decide, by decide, by decide⟩
    · cases switch
  · exact list (by decide) (by decide) _ param vhost
  · exact list (by decide) (by decide) _ param queues
  · have keys : ∀ key ∈ namedKeys, '=' ∉ key.toList ∧ CommaFree key := by decide
    obtain ⟨key, listed, value, text, rfl⟩ := exists_pair_of_mem_namedParams named
    refine ⟨(keys key listed).1, (keys key listed).2, ?_⟩
    rcases List.mem_cons.mp text with rfl | other
    · decide
    · rcases List.mem_cons.mp other with rfl | own
      · decide
      · exact plain value own

/-- The options of a network device are cut into their parameters where its texts hold no comma. -/
theorem inPieces_optionsFor {device : NetDevice} (id : CommaFree device.id)
    (plain : ∀ text ∈ device.namedTexts, CommaFree text) (placement : Placement)
    (grants : List Grant)
    : ∀ option ∈ device.optionsFor placement grants, option.InPieces := by
  have silent := device.silent_cardOptionsFor placement grants
  intro option member
  unfold optionsFor at member
  split at member
  · cases member
  · rcases List.mem_append.mp member with backend | shown
    · unfold backendOptionsFor at backend
      split at backend
      · cases backend
      · next keyword kind =>
          obtain rfl := List.mem_singleton.mp backend
          exact ⟨by simp [backendParamsFor], isPiece_backendParamsFor kind id plain grants⟩
    · exact LaunchOption.inPieces_of_isSilent (silent option shown)

end NetDevice

theorem Config.net_mem_devices_iff {config : Config} {card : NetDevice}
    : .net card ∈ config.devices ↔ card ∈ config.netDevices := by
  simp [devices, Category.all, Category.devices]

/-- The options of an assembly are cut into their parameters where the texts of its network devices
hold no comma.
-/
theorem GrantedRun.inPieces_options {settings : BuildSettings} {config : Config}
    (run : GrantedRun settings config) (plain : ∀ text ∈ config.backendTexts, CommaFree text)
    : ∀ option ∈ run.invocation.options, option.InPieces := by
  refine run.forall_mem_options ?_ ?_ ?_
  · intro stage option member
    exact LaunchOption.inPieces_of_isSilent (stage.silent_settings config _ option member)
  · intro step listed option member
    obtain ⟨grants, _, options⟩ := run.step_granted listed
    have planned := run.device_mem_devices listed
    rw [options] at member
    by_cases card : ∃ own, step.planned.device = .net own
    · obtain ⟨own, same⟩ := card
      rw [same] at planned member
      have texts : ∀ text ∈ own.id :: own.namedTexts, CommaFree text := by
        intro text written
        exact plain text
          (List.mem_flatMap.mpr ⟨own, Config.net_mem_devices_iff.mp planned, written⟩)
      obtain ⟨id, named⟩ := List.forall_mem_cons.mp texts
      exact NetDevice.inPieces_optionsFor id named _ _ option member
    · have silent := Device.silent_optionsFor (not_exists.mp card)
        (step.planned.placement config.knobs.iommuPlatform) settings.architecture grants
      exact LaunchOption.inPieces_of_isSilent (silent option member)
  · intro option member
    unfold Migration.optionsFor at member
    split at member
    · cases member
    · next uri _ =>
        rcases List.mem_cons.mp member with rfl | single
        · trivial
        · obtain rfl := List.mem_singleton.mp single
          exact ⟨uri, rfl⟩

/-- The lists that are read off the pieces of the arguments of an assembly are those of its options,
where the texts of its network devices hold no comma.
-/
theorem GrantedRun.listsInPieces?_arguments {settings : BuildSettings} {config : Config}
    (run : GrantedRun settings config) (plain : ∀ text ∈ config.backendTexts, CommaFree text)
    : listsInPieces? run.invocation.arguments = some (readLists run.invocation.options) := by
  rw [listsInPieces?, Invocation.arguments, readOptions_argumentsOf, Option.map_some,
    List.flatMap_map]
  congr 1
  exact List.flatMap_congr fun option member =>
    (run.inPieces_options plain option member).placedLists_read

-- The name of an interface that holds a comma is cut, and its second part looks like a list.
example
    : let card : NetDevice := { id := "n0", type := .tap, tap := { interface := "a,fds=9" } }
      let value := "tap,id=n0,ifname=a,fds=9"
      joinParams (card.backendParamsFor "tap" []) = value
        ∧ card.listsIn value = []
        ∧ listsInPieces? ["-netdev", value] = some [(.backend "n0" "fds", [9])] := by
  decide +kernel

end GuestLaunch
