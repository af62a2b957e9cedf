import GuestLaunch.Proofs.Smbios.LeadingIntegers
import GuestLaunch.Settings.Smbios

/-!
Releases of a BIOS. The check of a release announces two integers with a point between them. It
reads them from the start of the text and does not look at what follows the second one.
-/

namespace GuestLaunch
open Json.Number (EndsDigits)
open Text.Numeral (IsWordInteger leadingInteger? leadingInteger?_eq_some_iff)

namespace Smbios.Bios

/-- A text has the form that a release is to have: two integers of 64 bits and a point between
them.
-/
def HasReleaseForm (text : List Char) : Prop :=
  ∃ major minor, text = major ++ '.' :: minor ∧ IsWordInteger major ∧ IsWordInteger minor

/-- A text starts with a release and does not go on with a digit. -/
def StartsWithRelease (text rest : List Char) : Prop :=
  ∃ release, text = release ++ rest ∧ HasReleaseForm release ∧ EndsDigits rest

/-- The check of a table accepts the release exactly if it has the announced form. -/
def AcceptsAnnounced (table : Bios) : Prop :=
  table.problem? = none ↔ HasReleaseForm table.release.toList

/-- What the check of a table makes of its release. -/
structure ReleaseChecked (table : Bios) : Prop where
  /-- A release is accepted exactly if it starts with the announced form, whatever follows. -/
  accepted : table.problem? = none ↔ ∃ rest, StartsWithRelease table.release.toList rest
  /-- A release that is not accepted is reported, with its text and the announced form. -/
  refused
    : table.problem? ≠ none
      → table.problem? = some (.invalidValue label "release" table.release "<major>.<minor>")
  /-- The check is right unless something follows the announced form. -/
  announced
    : table.AcceptsAnnounced
      ↔ ¬∃ rest, rest ≠ [] ∧ StartsWithRelease table.release.toList rest

-----------------------------------------------------------------------------------------
-- Reading a release
-----------------------------------------------------------------------------------------

theorem endsDigits_point (rest : List Char) : EndsDigits ('.' :: rest) := by
  intro symbol member
  obtain rfl := Option.some.inj member
  rfl

theorem hasReleaseForm_of_startsWithRelease {text : List Char}
    (starts : StartsWithRelease text [])
    : HasReleaseForm text := by
  obtain ⟨release, rfl, form, -⟩ := starts
  rwa [List.append_nil]

theorem startsWithRelease_of_hasReleaseForm {text : List Char} (form : HasReleaseForm text)
    : StartsWithRelease text [] :=
  ⟨text, (List.append_nil text).symm, form, Json.Number.endsDigits_nil⟩

/-- A text starts with a release exactly if an integer is read from it, then a point, then an
integer again.
-/
theorem startsWithRelease_iff {text rest : List Char}
    : StartsWithRelease text rest
      ↔ ∃ major minor behind,
          leadingInteger? text = some (major, '.' :: behind)
          ∧ leadingInteger? behind = some (minor, rest) := by
  constructor
  · rintro ⟨release, rfl, ⟨major, minor, rfl, ⟨first, writesFirst, fitsFirst⟩, second,
      writesSecond, fitsSecond⟩, ends⟩
    refine ⟨first, second, minor ++ rest, leadingInteger?_eq_some_iff.mpr ?_,
      leadingInteger?_eq_some_iff.mpr ⟨minor, rfl, writesSecond, fitsSecond, ends⟩⟩
    exact ⟨major, by simp, writesFirst, fitsFirst, endsDigits_point (minor ++ rest)⟩
  · rintro ⟨first, second, behind, readFirst, readSecond⟩
    obtain ⟨major, rfl, writesFirst, fitsFirst, -⟩ := leadingInteger?_eq_some_iff.mp readFirst
    obtain ⟨minor, rfl, writesSecond, fitsSecond, ends⟩ :=
      leadingInteger?_eq_some_iff.mp readSecond
    exact ⟨major ++ '.' :: minor, by simp,
      ⟨major, minor, rfl, ⟨first, writesFirst, fitsFirst⟩, second, writesSecond, fitsSecond⟩, ends⟩

/-- The release that a text starts with ends at one place, because it is read there. -/
theorem StartsWithRelease.rest_unique {text rest other : List Char}
    (starts : StartsWithRelease text rest) (again : StartsWithRelease text other)
    : rest = other := by
  obtain ⟨major, minor, behind, readMajor, readMinor⟩ := startsWithRelease_iff.mp starts
  obtain ⟨otherMajor, otherMinor, otherBehind, againMajor, againMinor⟩ :=
    startsWithRelease_iff.mp again
  rw [readMajor] at againMajor
  obtain ⟨-, same⟩ := Prod.mk.inj (Option.some.inj againMajor)
  obtain rfl := (List.cons.inj same).2
  rw [readMinor] at againMinor
  exact (Prod.mk.inj (Option.some.inj againMinor)).2

theorem isRelease_iff (text : List Char)
    : isRelease text = true ↔ ∃ rest, StartsWithRelease text rest := by
  simp only [startsWithRelease_iff]
  constructor
  · intro release
    unfold isRelease at release
    split at release
    next major behind read =>
      obtain ⟨⟨minor, rest⟩, readMinor⟩ := Option.isSome_iff_exists.mp release
      exact ⟨rest, major, minor, behind, read, readMinor⟩
    · cases release
  · rintro ⟨rest, major, minor, behind, readMajor, readMinor⟩
    simp [isRelease, readMajor, readMinor]

-----------------------------------------------------------------------------------------
-- The check
-----------------------------------------------------------------------------------------

theorem problem?_of_release {table : Bios} (present : table.release ≠ "")
    (unmarked : table.uefi = "")
    : table.problem?
      = if isRelease table.release.toList then none
        else some (.invalidValue label "release" table.release "<major>.<minor>") := by
  have empty : table.release.isEmpty = false := by simpa using present
  have uefi : table.checkUefi = none := by simp [checkUefi, unmarked]
  rw [problem?, uefi, checkRelease, empty, Bool.false_or, Option.orElse_eq_orElse]
  split <;> rfl

/-- The check errs where something follows a release, and nowhere else. -/
theorem acceptsAnnounced_iff {table : Bios}
    (accepted : table.problem? = none ↔ ∃ rest, StartsWithRelease table.release.toList rest)
    : table.AcceptsAnnounced
      ↔ ¬∃ rest, rest ≠ [] ∧ StartsWithRelease table.release.toList rest := by
  rw [AcceptsAnnounced, accepted]
  constructor
  · rintro announced ⟨rest, follows, starts⟩
    have form := startsWithRelease_of_hasReleaseForm (announced.mp ⟨rest, starts⟩)
    exact follows (starts.rest_unique form)
  · intro bare
    constructor
    · rintro ⟨rest, starts⟩
      by_cases ends : rest = []
      · rw [ends] at starts
        exact hasReleaseForm_of_startsWithRelease starts
      · exact absurd ⟨rest, ends, starts⟩ bare
    · intro form
      exact ⟨[], startsWithRelease_of_hasReleaseForm form⟩

/-- The check of a release accepts what starts with the announced form. -/
theorem release_checked {table : Bios} (present : table.release ≠ "")
    (unmarked : table.uefi = "")
    : table.ReleaseChecked := by
  have outcome := problem?_of_release present unmarked
  have accepted
      : table.problem? = none ↔ ∃ rest, StartsWithRelease table.release.toList rest := by
    rw [outcome, ← isRelease_iff]
    simp
  constructor
  case accepted => exact accepted
  case announced => exact acceptsAnnounced_iff accepted
  case refused =>
    intro found
    rw [outcome] at found ⊢
    split at found
    · exact absurd rfl found
    · next other => rw [if_neg other]

/-- A release with a sign and a leading zero has the announced form and is accepted. -/
theorem release_checked_signedRelease
    : let table : Bios := { release := "+1.-07" }
      table.ReleaseChecked
        ∧ HasReleaseForm table.release.toList
        ∧ table.problem? = none
        ∧ table.AcceptsAnnounced := by
  intro table
  have checked : table.ReleaseChecked := release_checked (by decide) rfl
  have form : HasReleaseForm table.release.toList :=
    ⟨['+', '1'], ['-', '0', '7'], by decide,
      ⟨1, .plus ⟨by decide, List.all_eq_true.mp rfl⟩, by decide, by decide⟩,
      ⟨-7, .minus ⟨by decide, List.all_eq_true.mp rfl⟩, by decide, by decide⟩⟩
  have accepted : table.problem? = none :=
    checked.accepted.mpr ⟨[], startsWithRelease_of_hasReleaseForm form⟩
  exact ⟨checked, form, accepted, fun _ => form, fun _ => accepted⟩

/-- A table whose release has three parts. -/
def threePartRelease : Bios where
  release := "1.2.3"

/-- A release with a third part is accepted, although it does not have the announced form. -/
theorem not_acceptsAnnounced_threePartRelease
    : threePartRelease.release ≠ ""
      ∧ threePartRelease.uefi = ""
      ∧ threePartRelease.problem? = none
      ∧ ¬threePartRelease.AcceptsAnnounced := by
  have accepted : threePartRelease.problem? = none := by decide
  have starts : StartsWithRelease threePartRelease.release.toList ['.', '3'] :=
    startsWithRelease_iff.mpr ⟨1, 2, ['2', '.', '3'], by decide, by decide⟩
  refine ⟨by decide, rfl, accepted, fun announced => ?_⟩
  have form := startsWithRelease_of_hasReleaseForm (announced.mp accepted)
  cases starts.rest_unique form

end Smbios.Bios

end GuestLaunch
