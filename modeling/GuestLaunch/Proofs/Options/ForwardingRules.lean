import GuestLaunch.Proofs.Addresses.Functions
import GuestLaunch.Proofs.Options.Properties
import GuestLaunch.Proofs.Resources.PlanRequests

/-!
Forwarding rules on the command line. A rule of a network is left out if its text is that of a rule
in which nothing is set. The parts of a rule may hold any symbols, but no other rule has that text:
no text of a rule is shorter, and every part that is set makes it longer or changes a digit.
-/

namespace GuestLaunch
open Text

namespace PortRule

-----------------------------------------------------------------------------------------
-- The shortest text of a rule
-----------------------------------------------------------------------------------------

theorem toList_text (rule : PortRule)
    : rule.text.toList
      = rule.protocol.toList
        ++ ':' :: rule.host.address.toList
        ++ ':' :: Numeral.write 10 rule.host.port.toNat
        ++ '-' :: rule.guest.address.toList
        ++ ':' :: Numeral.write 10 rule.guest.port.toNat := by
  simp [text, decimal]

/-- A text has four marks and two numbers, and whatever the other parts bring. -/
theorem length_text (rule : PortRule)
    : rule.text.length
      = rule.protocol.length + rule.host.address.length + rule.guest.address.length
        + (Numeral.write 10 rule.host.port.toNat).length
        + (Numeral.write 10 rule.guest.port.toNat).length + 4 := by
  rw [← String.length_toList, toList_text]
  simp only [List.length_append, List.length_cons, String.length_toList]
  omega

/-- A rule whose text is no longer than that of a rule in which nothing is set has no protocol and
no addresses, and its ports have one digit each.
-/
theorem parts_of_length_text {rule : PortRule} (short : rule.text.length ≤ emptyText.length)
    : rule.protocol = ""
      ∧ rule.host.address = ""
      ∧ rule.guest.address = ""
      ∧ (Numeral.write 10 rule.host.port.toNat).length = 1
      ∧ (Numeral.write 10 rule.guest.port.toNat).length = 1 := by
  have six : emptyText.length = 6 := by decide
  have host := List.length_pos_iff.mpr (Numeral.write_ne_nil 10 rule.host.port.toNat)
  have guest := List.length_pos_iff.mpr (Numeral.write_ne_nil 10 rule.guest.port.toNat)
  rw [length_text, six] at short
  refine ⟨String.length_eq_zero_iff.mp ?_, String.length_eq_zero_iff.mp ?_,
    String.length_eq_zero_iff.mp ?_, ?_, ?_⟩
  all_goals omega

theorem port_eq_zero {port : UInt16} (written : Numeral.write 10 port.toNat = ['0'])
    : port = 0 := by
  have zero : Numeral.write 10 0 = ['0'] := by decide +kernel
  have same : port.toNat = 0 :=
    Numeral.write_injective (by decide) (by decide) (written.trans zero.symm)
  exact UInt16.toNat_inj.mp same

/-- Only a rule in which nothing is set has the text of one. -/
theorem text_eq_emptyText_iff (rule : PortRule) : rule.text = emptyText ↔ rule = {} := by
  constructor
  · intro same
    obtain ⟨protocol, host, guest, hostDigits, guestDigits⟩ :=
      parts_of_length_text (le_of_eq (congrArg String.length same))
    obtain ⟨hostDigit, hostPort⟩ := List.length_eq_one_iff.mp hostDigits
    obtain ⟨guestDigit, guestPort⟩ := List.length_eq_one_iff.mp guestDigits
    have symbols : rule.text.toList = [':', ':', hostDigit, '-', ':', guestDigit] := by
      rw [toList_text, protocol, host, guest, hostPort, guestPort]
      rfl
    have empty : rule.text.toList = [':', ':', '0', '-', ':', '0'] := by
      rw [same]
      decide
    rw [symbols] at empty
    simp only [List.cons.injEq, true_and, and_true] at empty
    obtain ⟨rfl, rfl⟩ := empty
    have hostZero := port_eq_zero hostPort
    have guestZero := port_eq_zero guestPort
    obtain ⟨_, ⟨_, _⟩, _, _⟩ := rule
    subst protocol host guest hostZero guestZero
    rfl
  · rintro rfl
    decide +kernel

end PortRule

/-- The rules of a network in which anything is set, in their order. -/
def UserNetwork.setRules (network : UserNetwork) : List PortRule :=
  network.rules.filter fun rule => rule ≠ {}

theorem UserNetwork.ruleParams_eq (network : UserNetwork)
    : network.ruleParams
      = network.setRules.map fun rule => .pair "hostfwd" rule.text := by
  have told : (fun text => text != PortRule.emptyText) ∘ PortRule.text
      = fun rule => decide (rule ≠ {}) := by
    funext rule
    exact Bool.eq_iff_iff.mpr (by simp [PortRule.text_eq_emptyText_iff])
  rw [ruleParams, List.filter_map, told, List.map_map]
  rfl

theorem UserNetwork.valuesUnder_hostfwd (network : UserNetwork)
    : valuesUnder "hostfwd" network.params = network.setRules.map PortRule.text := by
  have rules : valuesUnder "hostfwd" network.ruleParams = network.setRules.map PortRule.text := by
    rw [ruleParams_eq, valuesUnder, List.filterMap_map, ← List.filterMap_eq_map]
    rfl
  simp [params, rules]

namespace NetDevice

/-- What becomes of the forwarding rules of a device, whose order is that of the configuration. -/
structure ForwardsRules (device : NetDevice) : Prop where
  /-- In every state the backend is one option, which has the texts of the rules in which anything
  is set.
  -/
  backend
    : ∀ state,
        ∃ params final,
          device.renderBackend.run state = (.ok [.setting .netdev params], final)
          ∧ valuesUnder "hostfwd" params = device.user.setRules.map PortRule.text
  /-- The options of a device that is rendered have the same texts. -/
  rendered
    : ∀ placement state options final,
        (device.render placement).run state = (.ok options, final)
        → propertyValues .netdev "hostfwd" options = device.user.setRules.map PortRule.text
  /-- The rules that are left out by their text are those in which nothing is set. -/
  omitted : ∀ rule : PortRule, rule.text = PortRule.emptyText ↔ rule = {}

variable {device : NetDevice}

theorem exists_run_vhostParams (device : NetDevice) (state : RunState)
    : ∃ params final,
        device.vhostParams.run state = (.ok params, final)
        ∧ valuesUnder "hostfwd" params = [] := by
  unfold vhostParams inheritUnder
  split
  · split
    · exact ⟨_, _, rfl, by simp⟩
    · exact ⟨_, _, rfl, by simp [descriptorParam]⟩
  · exact ⟨_, _, rfl, rfl⟩

theorem exists_run_renderBackend (provided : device.type = .user) (state : RunState)
    : ∃ params final,
        device.renderBackend.run state = (.ok [.setting .netdev params], final)
        ∧ valuesUnder "hostfwd" params = device.user.setRules.map PortRule.text := by
  obtain ⟨vhost, final, run, none⟩ := device.exists_run_vhostParams state
  refine ⟨[.bare "user", .pair "id" device.id] ++ vhost ++ device.user.params, final, ?_, ?_⟩
  · have ofType : device.typeParams = pure device.user.params := by
      rw [typeParams, provided]
    have keyword : device.type.backendKeyword? = some "user" := by
      rw [provided]
      rfl
    have backend : device.renderBackend
        = (fun vhost =>
            [.setting .netdev
              ([.bare "user", .pair "id" device.id] ++ vhost ++ device.user.params)])
          <$> device.vhostParams := by
      simp [renderBackend, keyword, ofType]
    rw [backend, Render.run_map, run]
  · simp [none, UserNetwork.valuesUnder_hostfwd]

theorem forwardsRules_of_user (provided : device.type = .user) : device.ForwardsRules where
  backend := exists_run_renderBackend provided
  rendered := by
    intro placement state options final rendered
    have own : ((Device.net device).render placement .x86_64).run state = (.ok options, final) :=
      rendered
    obtain ⟨grants, _, same⟩ := Device.exists_optionsFor_of_render own
    obtain rfl : options = device.optionsFor placement grants := same
    have card : propertyValues .netdev "hostfwd" (device.cardOptionsFor placement grants) = [] := by
      simp [cardOptionsFor]
    have shown : device.isSkipped = false := by simp [isSkipped, provided]
    have named : device.namedParams = device.user.params := by rw [namedParams, provided]
    simp [optionsFor, shown, card, backendOptionsFor, provided, NetType.backendKeyword?,
      backendParamsFor, named, UserNetwork.valuesUnder_hostfwd, vhostKey, queueKey]
  omitted := PortRule.text_eq_emptyText_iff

/-- A rule with a colon for its protocol, a rule in which nothing is set, and a rule whose guest
address ends like the text of one.
-/
theorem forwardsRules_colonRules
    : let colon : PortRule := { protocol := ":" }
      let dashed : PortRule := { guest := { address := "::0-" } }
      let device : NetDevice := { id := "n0", user := { rules := [colon, {}, dashed] } }
      let placement : Placement := { transport := .pci }
      let options := device.optionsFor placement []
      device.type = .user
        ∧ device.ForwardsRules
        ∧ (device.render placement).run (.initial .strict) = (.ok options, .initial .strict)
        ∧ propertyValues .netdev "hostfwd" options = [":::0-:0", "::0-::0-:0"] := by
  intro colon dashed device placement options
  have rules : device.ForwardsRules := forwardsRules_of_user rfl
  have rendered
      : (device.render placement).run (.initial .strict) = (.ok options, .initial .strict) := by
    rfl
  refine ⟨rfl, rules, rendered, ?_⟩
  rw [rules.rendered placement _ options _ rendered]
  decide +kernel

end NetDevice
end GuestLaunch
