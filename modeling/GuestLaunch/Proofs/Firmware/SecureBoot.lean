import GuestLaunch.Proofs.Firmware.Discovery
import GuestLaunch.Proofs.Firmware.Paths

/-!
Whether firmware that is discovered for secure boot is told to be a build for it. It is told by the
end of the name of its code, which all layouts for secure boot share but the one that is not for
x86 alone.
-/

namespace GuestLaunch
open Text

/-- Firmware that is discovered is told to be for secure boot exactly if it was asked for. -/
def TellsSecureBoot (isFile : String → Bool) (root : String) (architecture : Architecture)
    (secureBoot : Bool) : Prop :=
  ∀ pair,
    FlashPair.discover isFile root architecture secureBoot = .ok pair
    → pair.isSecureBoot = secureBoot

namespace FirmwareLayout

/-- The layout for secure boot that every architecture has. -/
def everywhereSecure : FirmwareLayout where
  code := ".ms"
  store := ".ms"
  x86Only := false

/-- Whether the code of a layout has the mark by which a build for secure boot is told. -/
def isMarkedSecure (layout : FirmwareLayout) : Bool := endsWith layout.code ".secboot"

/-- The name of an image of a kind, in a variant of it. -/
def imageName (family kind variant : String) : String := family ++ kind ++ variant ++ ".fd"

def codeName (layout : FirmwareLayout) (architecture : Architecture) : String :=
  imageName architecture.firmwareFamily "VMF_CODE" layout.code

def storeName (layout : FirmwareLayout) (architecture : Architecture) : String :=
  imageName architecture.firmwareFamily "VMF_VARS" layout.store

theorem firmwareFamily_mem (architecture : Architecture)
    : architecture.firmwareFamily ∈ ["O", "AA", ""] := by
  cases architecture <;> decide

theorem relative_imageName {kind : String} (known : kind ∈ ["VMF_CODE", "VMF_VARS"])
    (architecture : Architecture) (variant : String)
    : startsWith (imageName architecture.firmwareFamily kind variant) "/" = false := by
  have every : ∀ family ∈ ["O", "AA", ""], ∀ kind ∈ ["VMF_CODE", "VMF_VARS"],
      family ++ kind ≠ "" ∧ startsWith (family ++ kind) "/" = false := by
    decide
  obtain ⟨present, relative⟩ := every _ (firmwareFamily_mem architecture) kind known
  rw [imageName, String.append_assoc, startsWith_append (length_slash_le present), relative]

theorem relative_codeName (layout : FirmwareLayout) (architecture : Architecture)
    : startsWith (layout.codeName architecture) "/" = false :=
  relative_imageName (by decide) architecture layout.code

theorem relative_storeName (layout : FirmwareLayout) (architecture : Architecture)
    : startsWith (layout.storeName architecture) "/" = false :=
  relative_imageName (by decide) architecture layout.store

/-- The name of a code image shows the mark of its layout, for each family and each layout of the
tables.
-/
theorem endsWith_codeName {layout : FirmwareLayout} {secureBoot : Bool}
    (listed : layout ∈ preferred secureBoot) (architecture : Architecture)
    : endsWith (layout.codeName architecture) ".secboot.fd" = layout.isMarkedSecure := by
  have every : ∀ family ∈ ["O", "AA", ""], ∀ secureBoot, ∀ layout ∈ preferred secureBoot,
      endsWith (imageName family "VMF_CODE" layout.code) ".secboot.fd"
        = layout.isMarkedSecure := by
    decide +kernel
  exact every _ (firmwareFamily_mem architecture) secureBoot layout listed

/-- All layouts have the mark of what they are for, but the one for secure boot everywhere. -/
theorem isMarkedSecure_of_listed {layout : FirmwareLayout} {secureBoot : Bool}
    (listed : layout ∈ preferred secureBoot)
    : layout.isMarkedSecure = secureBoot ∨ secureBoot = true ∧ layout = everywhereSecure := by
  have every : ∀ secureBoot, ∀ layout ∈ preferred secureBoot,
      layout.isMarkedSecure = secureBoot ∨ secureBoot = true ∧ layout = everywhereSecure := by
    decide +kernel
  exact every secureBoot layout listed

/-- The root of the tree does not matter to what is told of secure boot. -/
theorem isSecureBoot_pairAt {layout : FirmwareLayout} {secureBoot : Bool}
    (listed : layout ∈ preferred secureBoot) (root : String) (architecture : Architecture)
    : (layout.pairAt root architecture).isSecureBoot = layout.isMarkedSecure := by
  have short
      : ".secboot.fd".toList.length ≤ (layout.codeName architecture).toList.length := by
    simp [codeName, imageName]
    omega
  show endsWith (joinPath (FlashPair.familyDirectory root architecture)
    (layout.codeName architecture)) ".secboot.fd" = layout.isMarkedSecure
  rw [joinPath_eq (layout.relative_codeName architecture), endsWith_append short,
    endsWith_codeName listed]

end FirmwareLayout

/-- What is told of secure boot is right unless the layout that every architecture has is discovered
for it.
-/
theorem tellsSecureBoot_iff (isFile : String → Bool) (root : String)
    (architecture : Architecture) (secureBoot : Bool)
    : TellsSecureBoot isFile root architecture secureBoot
      ↔ ¬(secureBoot = true
          ∧ FlashPair.discover isFile root architecture secureBoot
            = .ok (FirmwareLayout.everywhereSecure.pairAt root architecture)) := by
  constructor
  · rintro tells ⟨rfl, found⟩
    have listed : FirmwareLayout.everywhereSecure ∈ FirmwareLayout.preferred true := by decide
    have told := tells _ found
    rw [FirmwareLayout.isSecureBoot_pairAt listed] at told
    exact absurd told (by decide +kernel)
  · intro otherwise pair found
    obtain ⟨layout, first, rfl⟩ := FlashPair.discover_eq_ok_iff.mp found
    have listed := List.mem_of_find?_eq_some first
    rcases FirmwareLayout.isMarkedSecure_of_listed listed with marked | ⟨asked, rfl⟩
    · rw [FirmwareLayout.isSecureBoot_pairAt listed, marked]
    · exact absurd ⟨asked, found⟩ otherwise

/-- The files of an installation for secure boot on another architecture than x86. -/
def isPortableFirmware (path : String) : Bool :=
  ["/usr/share/AAVMF/AAVMF_CODE.ms.fd", "/usr/share/AAVMF/AAVMF_VARS.ms.fd"].contains path

/-- They are discovered when secure boot is asked for, and told not to be for it. -/
theorem not_tellsSecureBoot_portableFirmware
    : let pair : FlashPair :=
        { code := "/usr/share/AAVMF/AAVMF_CODE.ms.fd"
          store := "/usr/share/AAVMF/AAVMF_VARS.ms.fd" }
      FlashPair.discover isPortableFirmware "/usr/share" .aarch64 true = .ok pair
        ∧ pair.isSecureBoot = false
        ∧ ¬TellsSecureBoot isPortableFirmware "/usr/share" .aarch64 true := by
  intro pair
  have found : FlashPair.discover isPortableFirmware "/usr/share" .aarch64 true = .ok pair :=
    FlashPair.discover_eq_ok_iff.mpr
      ⟨FirmwareLayout.everywhereSecure, by decide +kernel, by decide +kernel⟩
  have untold : pair.isSecureBoot = false := by decide +kernel
  refine ⟨found, untold, ?_⟩
  intro tells
  have told : pair.isSecureBoot = true := tells pair found
  rw [untold] at told
  cases told

end GuestLaunch
