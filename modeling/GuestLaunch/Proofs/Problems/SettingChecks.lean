import GuestLaunch.Proofs.Outcome.Validity
import GuestLaunch.Proofs.Smbios.IntegerEnds
import GuestLaunch.Proofs.Smbios.Releases

/-!
What the settings of a guest have to be. The machine has eleven values with a fixed choice, each of
which may be left empty; every one of them that is set to something else is a problem of its own.
The other settings have one check each.
-/

namespace GuestLaunch
open Text.Numeral (StartsWithInteger)
open Smbios.Bios (StartsWithRelease)

/-- A value of the machine with a fixed choice. -/
structure FixedChoice where
  key : String
  value : String
  allowed : List String
  /-- How a problem names the allowed values. -/
  expected : String

/-- The values of the machine with a fixed choice: two with three words each, and nine switches. -/
def Machine.fixedChoices (machine : Machine) : List FixedChoice :=
  let switch (key value : String) : FixedChoice := ⟨key, value, ["on", "off"], "'on' or 'off'"⟩
  [⟨"kernel-irq-chip", machine.kernelIrqChip, ["on", "off", "split"], "'on', 'off', or 'split'"⟩,
    ⟨"vm-port", machine.vmPort, ["on", "off", "auto"], "'on', 'off', or 'auto'"⟩,
    switch "smm" machine.smm,
    switch "dump-guest-core" machine.dumpGuestCore,
    switch "memory-merge" machine.memoryMerge,
    switch "igd-passthrough" machine.igdPassthrough,
    switch "aes-key-wrap" machine.aesKeyWrap,
    switch "dea-key-wrap" machine.deaKeyWrap,
    switch "suppress-vm-description" machine.suppressVmDescription,
    switch "nvdimm" machine.nvdimm,
    switch "enforce-config-section" machine.enforceConfigSection]

namespace FixedChoice

/-- A value fails if it is set and is none of the allowed ones. -/
def Fails (choice : FixedChoice) : Prop := choice.value ≠ "" ∧ choice.value ∉ choice.allowed

instance (choice : FixedChoice) : Decidable choice.Fails :=
  inferInstanceAs (Decidable (_ ∧ _))

/-- The problem of a value that fails. -/
def problem (choice : FixedChoice) : Problem :=
  .invalidValue "Machine" choice.key choice.value choice.expected

end FixedChoice

/-- When the checks of the settings pass. -/
structure SettingsChecked (config : Config) : Prop where
  /-- The machine has one problem for each of its eleven values that fails, in their order. -/
  machine
    : problemsOf config.machine.checks
      = (config.machine.fixedChoices.filter fun choice => choice.Fails).map FixedChoice.problem
  /-- A display has one of its two ports. -/
  display
    : ∀ display ∈ config.spice,
        display.problem? = none ↔ (display.port = "" ↔ display.tlsPort ≠ "")
  trustedModule
    : ∀ tpm ∈ config.tpm,
        tpm.problem? = none
        ↔ tpm.id ≠ "" ∧ tpm.driver ≠ "" ∧ tpm.path ≠ ""
          ∧ tpm.type ∈ ["emulator", "passthrough"]
  bios
    : config.smbios.bios.problem? = none
      ↔ (config.smbios.bios.release = ""
          ∨ ∃ rest, StartsWithRelease config.smbios.bios.release.toList rest)
        ∧ (config.smbios.bios.uefi = ""
          ∨ config.smbios.bios.uefi.toList.map Char.toLower ∈ ["on".toList, "off".toList])
  memory
    : ∀ table ∈ config.smbios.memory,
        table.problem? = none
        ↔ table.speed = "" ∨ ∃ value rest, StartsWithInteger table.speed.toList value rest
  controlSockets
    : ∀ socket ∈ config.controlSockets,
        socket.problem? = none ↔ socket.type = "unix" ∧ socket.name ≠ ""
  processors
    : config.processors.problem? = none
      ↔ config.processors.greatest = 0 ∨ config.processors.atBoot ≤ config.processors.greatest

-----------------------------------------------------------------------------------------
-- The machine
-----------------------------------------------------------------------------------------

/-- The check of a value finds its problem exactly if the value fails. -/
theorem FixedChoice.checkOneOf_eq (choice : FixedChoice)
    : checkOneOf "Machine" choice.key choice.value choice.allowed choice.expected
      = if choice.Fails then some choice.problem else none := by
  by_cases empty : choice.value = "" <;> by_cases listed : choice.value ∈ choice.allowed <;>
    simp [checkOneOf, Fails, problem, empty, listed]

/-- The checks of the machine are those of its values with a fixed choice. -/
theorem Machine.checks_eq (machine : Machine)
    : machine.checks
      = machine.fixedChoices.map fun choice =>
          if choice.Fails then some choice.problem else none := by
  simp only [← FixedChoice.checkOneOf_eq]
  rfl

/-- The problems that some values have are those of the values that fail, by induction on them. -/
theorem problemsOf_fixedChoices (choices : List FixedChoice)
    : problemsOf (choices.map fun choice => if choice.Fails then some choice.problem else none)
      = (choices.filter fun choice => choice.Fails).map FixedChoice.problem := by
  induction choices with
  | nil => rfl
  | cons choice rest ih =>
      by_cases fails : choice.Fails
      · rw [List.map_cons, if_pos fails, List.filter_cons_of_pos (by simpa using fails),
          List.map_cons, ← ih]
        rfl
      · rw [List.map_cons, if_neg fails, List.filter_cons_of_neg (by simpa using fails), ← ih]
        rfl

-----------------------------------------------------------------------------------------
-- The other settings
-----------------------------------------------------------------------------------------

/-- A check for exactly one of two texts passes if the one is empty where the other is not. -/
theorem checkExactlyOne_eq_none_iff {subject firstField secondField first second : String}
    : checkExactlyOne subject firstField secondField (!first.isEmpty) (!second.isEmpty) = none
      ↔ (first = "" ↔ second ≠ "") := by
  have unset (text : String) : (!text.isEmpty) = false ↔ text = "" := by simp
  rw [← unset first, ne_eq, ← unset second]
  cases !first.isEmpty <;> cases !second.isEmpty <;> simp [checkExactlyOne]

theorem Spice.problem?_eq_none_iff (spice : Spice)
    : spice.problem? = none ↔ (spice.port = "" ↔ spice.tlsPort ≠ "") :=
  checkExactlyOne_eq_none_iff

theorem Tpm.problem?_eq_none_iff (tpm : Tpm)
    : tpm.problem? = none
      ↔ tpm.id ≠ "" ∧ tpm.driver ≠ "" ∧ tpm.path ≠ ""
        ∧ tpm.type ∈ ["emulator", "passthrough"] := by
  simp only [problem?, Option.orElse_eq_none, checkPresent_eq_none_iff, checkOneOf_eq_none_iff]
  have named : ∀ word ∈ ["emulator", "passthrough"], word ≠ "" := by decide
  grind

theorem ControlSocket.problem?_eq_none_iff (socket : ControlSocket)
    : socket.problem? = none ↔ socket.type = "unix" ∧ socket.name ≠ "" := by
  simp only [problem?, Option.orElse_eq_none, checkPresent_eq_none_iff, checkOneOf_eq_none_iff,
    unixType, List.mem_singleton]
  constructor
  · rintro ⟨typed, named, unset | unix⟩
    · exact absurd unset typed
    · exact ⟨unix, named⟩
  · rintro ⟨unix, named⟩
    exact ⟨by rw [unix]; decide, named, Or.inr unix⟩

theorem Processors.problem?_eq_none_iff (processors : Processors)
    : processors.problem? = none
      ↔ processors.greatest = 0 ∨ processors.atBoot ≤ processors.greatest := by
  rw [problem?, ite_eq_right_iff]
  simp only [reduceCtorEq, imp_false, not_and_or, UInt32.not_lt, UInt32.le_zero_iff]

namespace Smbios

theorem Bios.problem?_eq_none_iff (table : Bios)
    : table.problem? = none
      ↔ (table.release = "" ∨ ∃ rest, StartsWithRelease table.release.toList rest)
        ∧ (table.uefi = "" ∨ table.uefi.toList.map Char.toLower ∈ ["on".toList, "off".toList]) := by
  have release : table.checkRelease = none
      ↔ table.release = "" ∨ ∃ rest, StartsWithRelease table.release.toList rest := by
    rw [← isRelease_iff]
    simp [checkRelease, Decidable.or_iff_not_imp_left]
  have uefi : table.checkUefi = none
      ↔ table.uefi = ""
        ∨ table.uefi.toList.map Char.toLower ∈ ["on".toList, "off".toList] := by
    have same (word : String)
        : String.ofList (table.uefi.toList.map Char.toLower) = word
          ↔ table.uefi.toList.map Char.toLower = word.toList := by
      rw [← String.toList_inj, String.toList_ofList]
    simp only [checkUefi, ite_eq_left_iff, reduceCtorEq, imp_false, Decidable.not_not,
      Bool.or_eq_true, String.isEmpty_iff, beq_iff_eq, same, List.mem_cons, List.not_mem_nil,
      or_false, or_assoc]
  simp only [problem?, Option.orElse_eq_none, release, uefi]

theorem MemoryDevice.problem?_eq_none_iff (table : MemoryDevice)
    : table.problem? = none
      ↔ table.speed = "" ∨ ∃ value rest, StartsWithInteger table.speed.toList value rest := by
  have read : (Text.Numeral.leadingInteger? table.speed.toList).isSome = true
      ↔ ∃ value rest, StartsWithInteger table.speed.toList value rest := by
    simp [Option.isSome_iff_exists, Prod.exists, Text.Numeral.leadingInteger?_eq_some_iff,
      StartsWithInteger]
  rw [← read]
  simp only [problem?, ite_eq_left_iff, reduceCtorEq, imp_false, Decidable.not_not,
    Bool.or_eq_true, String.isEmpty_iff]

end Smbios

/-- The checks of the settings, by the setting. -/
theorem Config.settingsChecked (config : Config) : SettingsChecked config where
  machine := by rw [config.machine.checks_eq, problemsOf_fixedChoices]
  display spice _ := spice.problem?_eq_none_iff
  trustedModule tpm _ := tpm.problem?_eq_none_iff
  bios := config.smbios.bios.problem?_eq_none_iff
  memory table _ := table.problem?_eq_none_iff
  controlSockets socket _ := socket.problem?_eq_none_iff
  processors := config.processors.problem?_eq_none_iff

end GuestLaunch
