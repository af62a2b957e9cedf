import GuestLaunch.Proofs.Arguments.Reading
import GuestLaunch.Proofs.Options.Properties

/-!
Slots as they are rendered. A device that is granted a slot has one device option, and the only
address in it is the slot, written as two hexadecimal digits behind `0x`.
-/

namespace GuestLaunch
open LaunchOption (joinParams)

/-- The text of a slot: two hexadecimal digits behind their mark. -/
def slotText (slot : Nat) : String :=
  "0x" ++ String.ofList [(slot / 16).digitChar, (slot % 16).digitChar]

def LaunchOption.deviceParams? : LaunchOption → Option (List Param)
  | setting .device params => some params
  | _ => none

/-- Options render a slot: it is the only address in their only device option, behind the driver,
and so its text stands in the value behind the flag of that option.
-/
structure RendersSlot (options : List LaunchOption) (slot : Nat) : Prop where
  property
    : ∃ driver rest,
        options.filterMap LaunchOption.deviceParams? = [.bare driver :: rest]
        ∧ valuesUnder "addr" rest = [slotText slot]
  text
    : ∃ before after,
        ["-device", before ++ (",addr=" ++ slotText slot) ++ after] <:+: argumentsOf options

-----------------------------------------------------------------------------------------
-- Texts
-----------------------------------------------------------------------------------------

/-- A number of two digits is padded to the text of a slot. -/
theorem hexadecimalByte_eq_slotText {slot : Nat} (small : slot < 256)
    : Text.hexadecimalByte slot = slotText slot := by
  have symbol : ∀ digit < 16, Text.Numeral.digitSymbol digit = digit.digitChar := by decide
  have low : slot % 16 < 16 := Nat.mod_lt slot (by decide)
  have padded : Text.Numeral.writePadded 16 2 slot
      = [(slot / 16).digitChar, (slot % 16).digitChar] := by
    by_cases single : slot < 16
    · have written : Text.Numeral.write 16 slot = [slot.digitChar] := by
        rw [Text.Numeral.write, if_pos (Or.inr single), symbol slot single]
      rw [Text.Numeral.writePadded, written, Nat.div_eq_of_lt single, Nat.mod_eq_of_lt single]
      rfl
    · have high : slot / 16 < 16 := by omega
      have written : Text.Numeral.write 16 slot
          = [(slot / 16).digitChar, (slot % 16).digitChar] := by
        rw [Text.Numeral.write, if_neg (by omega), Text.Numeral.write, if_pos (Or.inr high),
          symbol _ high, symbol _ low]
        rfl
      rw [Text.Numeral.writePadded, written]
      rfl
  rw [Text.hexadecimalByte, padded, slotText]

theorem slotParam_eq {slot : Nat} (small : slot < 256)
    : slotParam slot = .pair "addr" (slotText slot) := by
  rw [slotParam, hexadecimalByte_eq_slotText small]

/-- A property behind the first parameter of a value stands in the value behind a comma. -/
theorem exists_joinParams_eq (first : Param) {rest : List Param} {key value : String}
    (listed : value ∈ valuesUnder key rest)
    : ∃ before after,
        joinParams (first :: rest) = before ++ ("," ++ key ++ "=" ++ value) ++ after := by
  obtain ⟨param, member, own⟩ := List.mem_filterMap.mp listed
  obtain rfl : param = .pair key value := by
    cases param with
    | bare text => cases own
    | pair other text =>
        obtain ⟨rfl, same⟩ := Option.ite_none_right_eq_some.mp own
        rw [Option.some.inj same]
  obtain ⟨front, back, rfl⟩ := List.append_of_mem member
  refine ⟨first.text ++ behindCommas front, behindCommas back, ?_⟩
  rw [LaunchOption.joinParams_cons, behindCommas_append, behindCommas, Param.text]
  simp only [String.append_assoc]

/-- A slot that is the only address in the only device option is rendered. -/
theorem rendersSlot_of_property {options : List LaunchOption} {slot : Nat} {driver : String}
    {rest : List Param}
    (only : options.filterMap LaunchOption.deviceParams? = [.bare driver :: rest])
    (address : valuesUnder "addr" rest = [slotText slot])
    : RendersSlot options slot := by
  constructor
  case property => exact ⟨driver, rest, only, address⟩
  case text =>
    have shown : .bare driver :: rest ∈ options.filterMap LaunchOption.deviceParams? := by
      simp [only]
    obtain ⟨option, member, own⟩ := List.mem_filterMap.mp shown
    obtain rfl : option = .setting .device (.bare driver :: rest) := by
      unfold LaunchOption.deviceParams? at own
      split at own
      · rw [Option.some.inj own]
      · cases own
    have listed : slotText slot ∈ valuesUnder "addr" rest := by
      simp [address]
    obtain ⟨before, after, value⟩ := exists_joinParams_eq (.bare driver) listed
    obtain ⟨front, back, rfl⟩ := List.append_of_mem member
    refine ⟨before, after, argumentsOf front, argumentsOf back, ?_⟩
    have whole : argumentsOf (front ++ .setting .device (.bare driver :: rest) :: back)
        = argumentsOf front ++ (["-device", joinParams (.bare driver :: rest)]
          ++ argumentsOf back) :=
      argumentsOf_append _ _
    rw [whole, value, List.append_assoc]
    rfl

-----------------------------------------------------------------------------------------
-- Devices
-----------------------------------------------------------------------------------------

namespace Device
variable {placement : Placement} {grants : List Grant} {address : String} {slot : Nat}

/-- A device that is placed renders the granted slot, by the kind of the device. -/
theorem rendersSlot_optionsFor {device : Device}
    (asks : device.slotAddress? placement.transport = some address)
    (granted : slotIn? grants = some slot) (small : slot < 256) (architecture : Architecture)
    : RendersSlot (device.optionsFor placement architecture grants) slot := by
  have own := slotParam_eq small
  cases device with
  | scsi device =>
      have only : ((Device.scsi device).optionsFor placement architecture grants).filterMap
          LaunchOption.deviceParams? = [device.params placement (some slot)] := by
        cases thread : device.ioThread.isEmpty <;>
          simp [optionsFor, ScsiController.optionsFor, ScsiController.threadOptions, granted,
            thread, LaunchOption.deviceParams?]
      refine rendersSlot_of_property only ?_
      simp [ScsiController.slotParams, own]
  | ide device =>
      have only : ((Device.ide device).optionsFor placement architecture grants).filterMap
          LaunchOption.deviceParams? = [device.params slot device.busParams] := by
        simp [optionsFor, PciController.optionsFor, granted, LaunchOption.deviceParams?]
      refine rendersSlot_of_property only ?_
      simp [PciController.busParams, own]
  | usb device =>
      have only : ((Device.usb device).optionsFor placement architecture grants).filterMap
          LaunchOption.deviceParams? = [device.params slot []] := by
        simp [optionsFor, PciController.optionsFor, granted, LaunchOption.deviceParams?]
      refine rendersSlot_of_property only ?_
      simp [own]
  | disk device =>
      have rendered : device.driveOnly = false := by
        cases alone : device.driveOnly with
        | false => rfl
        | true => simp [slotAddress?, Disk.slotAddress?, alone] at asks
      have only : ((Device.disk device).optionsFor placement architecture grants).filterMap
          LaunchOption.deviceParams?
          = [device.deviceParams placement (bootIndexFor device.bootIndex grants)
              (some slot)] := by
        simp only [optionsFor, Disk.optionsFor, rendered, granted]
        rfl
      refine rendersSlot_of_property only ?_
      simp [Disk.slotParams, Disk.controllerParams, Disk.geometryParams, Disk.featureParams, own]
  | net device =>
      obtain ⟨skipped, present⟩ : device.isSkipped = false ∧ device.driver.isEmpty = false := by
        cases skipped : device.isSkipped <;> cases bare : device.driver.isEmpty <;>
          simp [slotAddress?, NetDevice.slotAddress?, skipped, bare] at asks ⊢
      have only : ((Device.net device).optionsFor placement architecture grants).filterMap
          LaunchOption.deviceParams?
          = [device.cardParams placement
              (placement.deviceName NetDevice.virtioDriver device.driver) (some slot)
              (bootIndexFor device.bootIndex grants)] := by
        cases keyword : device.type.backendKeyword?
        all_goals
          simp only [optionsFor, NetDevice.optionsFor, NetDevice.backendOptionsFor,
            NetDevice.cardOptionsFor, skipped, present, keyword, granted]
          rfl
      refine rendersSlot_of_property only ?_
      simp [NetDevice.queueParams, own]
  | entropy device =>
      have only : ((Device.entropy device).optionsFor placement architecture grants).filterMap
          LaunchOption.deviceParams? = [device.deviceParams placement (some slot)] := by
        simp only [optionsFor, EntropySource.optionsFor, granted]
        rfl
      refine rendersSlot_of_property only ?_
      simp [EntropySource.limitParam, own]
  | _ => cases asks

end Device

end GuestLaunch
