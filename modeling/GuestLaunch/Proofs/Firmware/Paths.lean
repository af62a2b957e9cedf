import GuestLaunch.Firmware
import Mathlib.Data.List.Infix

/-!
Paths of files below a directory, as texts. The path of a relative name ends with the name, which
stands behind a slash unless the directory has no text. So the end of a path can be told from the
name alone, but a mark in it may as well stand in the directory.
-/

namespace GuestLaunch
open Text

-----------------------------------------------------------------------------------------
-- Fragments of joined texts
-----------------------------------------------------------------------------------------

namespace Text
variable {fragment left right : List Char}

/-- A fragment is found exactly where it stands as an infix, by induction on the text. -/
theorem occursIn_iff (fragment text : List Char)
    : occursIn fragment text = true ↔ fragment <:+: text := by
  induction text with
  | nil => simp [occursIn]
  | cons symbol rest ih =>
      rw [occursIn, Bool.or_eq_true, ih, List.isPrefixOf_iff_prefix, List.infix_cons_iff]

/-- A fragment without a mark cannot start at the mark, unless it is empty. -/
theorem eq_nil_of_prefix_mark {mark : Char} (absent : mark ∉ fragment)
    (starts : fragment <+: mark :: right)
    : fragment = [] := by
  rcases List.prefix_cons_iff.mp starts with empty | ⟨rest, rfl, _⟩
  · exact empty
  · exact absurd List.mem_cons_self absent

/-- A fragment without a mark stands on one side of the mark. -/
theorem infix_append_mark {mark : Char} (absent : mark ∉ fragment)
    : fragment <:+: left ++ mark :: right ↔ fragment <:+: left ∨ fragment <:+: right := by
  constructor
  · intro found
    rcases List.infix_append_iff.mp found with before | behind | ⟨first, second, rfl, ends, starts⟩
    · exact Or.inl before
    · rcases List.infix_cons_iff.mp behind with starts | behind
      · rw [eq_nil_of_prefix_mark absent starts]
        exact Or.inl List.nil_infix
      · exact Or.inr behind
    · have absentBehind : mark ∉ second := fun member =>
        absent (List.mem_append_right first member)
      rw [eq_nil_of_prefix_mark absentBehind starts, List.append_nil]
      exact Or.inl ends.isInfix
  · rintro (before | behind)
    · exact before.trans (List.prefix_append left _).isInfix
    · exact behind.trans ((List.suffix_cons mark right).trans (List.suffix_append left _)).isInfix

/-- A fragment that is no longer than the first part of a text starts the text exactly if it starts
that part.
-/
theorem prefix_append_iff (short : fragment.length ≤ left.length)
    : fragment <+: left ++ right ↔ fragment <+: left := by
  constructor
  · intro starts
    exact List.prefix_of_prefix_length_le starts (List.prefix_append left right) short
  · intro starts
    exact starts.trans (List.prefix_append left right)

/-- A fragment that is no longer than the last part of a text ends the text exactly if it ends that
part.
-/
theorem suffix_append_iff (short : fragment.length ≤ right.length)
    : fragment <:+ left ++ right ↔ fragment <:+ right := by
  constructor
  · intro ends
    exact List.suffix_of_suffix_length_le ends (List.suffix_append left right) short
  · intro ends
    exact ends.trans (List.suffix_append left right)

theorem holds_iff (text fragment : String)
    : holds text fragment = true ↔ fragment.toList <:+: text.toList :=
  occursIn_iff fragment.toList text.toList

theorem endsWith_append {stem text fragment : String}
    (short : fragment.toList.length ≤ text.toList.length)
    : endsWith (stem ++ text) fragment = endsWith text fragment := by
  rw [Bool.eq_iff_iff, endsWith, endsWith, List.isSuffixOf_iff_suffix,
    List.isSuffixOf_iff_suffix, String.toList_append, suffix_append_iff short]

theorem startsWith_append {text fragment : String}
    (short : fragment.toList.length ≤ text.toList.length) (more : String)
    : startsWith (text ++ more) fragment = startsWith text fragment := by
  rw [Bool.eq_iff_iff, startsWith, startsWith, List.isPrefixOf_iff_prefix,
    List.isPrefixOf_iff_prefix, String.toList_append, prefix_append_iff short]

end Text

-----------------------------------------------------------------------------------------
-- Names in a directory
-----------------------------------------------------------------------------------------

/-- What stands before a name in the path of a file in a directory. -/
def pathStem (directory : String) : String :=
  if directory.isEmpty || endsWith directory "/" then directory else directory ++ "/"

/-- The path of a relative name is the name behind the text that stands for the directory. -/
theorem joinPath_eq {name : String} (relative : startsWith name "/" = false)
    (directory : String)
    : joinPath directory name = pathStem directory ++ name := by
  cases empty : directory.isEmpty with
  | true =>
      obtain rfl := String.isEmpty_iff.mp empty
      simp [joinPath, pathStem]
  | false =>
      cases closed : endsWith directory "/" <;>
        simp [joinPath, pathStem, relative, empty, closed]

theorem length_slash_le {text : String} (present : text ≠ "")
    : "/".toList.length ≤ text.toList.length := by
  cases symbols : text.toList with
  | nil => exact absurd (String.toList_eq_nil_iff.mp symbols) present
  | cons first rest => simp

theorem pathStem_append {directory : String} (present : directory ≠ "") (stem : String)
    : pathStem (stem ++ directory) = stem ++ pathStem directory := by
  have together : stem ++ directory ≠ "" := by simp [present]
  cases closed : endsWith directory "/" <;>
    simp [pathStem, endsWith_append (length_slash_le present), closed, present, together,
      String.append_assoc]

theorem relative_joinPath {directory name : String}
    (relative : startsWith directory "/" = false) (present : directory ≠ "")
    (relativeName : startsWith name "/" = false)
    : startsWith (joinPath directory name) "/" = false := by
  rw [joinPath_eq relativeName]
  unfold pathStem
  split
  · rw [startsWith_append (length_slash_le present), relative]
  · rw [String.append_assoc, startsWith_append (length_slash_le present), relative]

/-- A file in a directory below a root is a file below the root. -/
theorem joinPath_joinPath {directory name : String}
    (relative : startsWith directory "/" = false) (present : directory ≠ "")
    (relativeName : startsWith name "/" = false) (root : String)
    : joinPath (joinPath root directory) name = joinPath root (joinPath directory name) := by
  rw [joinPath_eq (relative_joinPath relative present relativeName), joinPath_eq relativeName,
    joinPath_eq relativeName, joinPath_eq relative, pathStem_append present, String.append_assoc]

/-- A fragment without a slash is found in the stem of a directory as in the directory, and behind
it in the name.
-/
theorem infix_pathStem_append {fragment : List Char} (pathless : '/' ∉ fragment)
    (directory : String) (name : List Char)
    : fragment <:+: (pathStem directory).toList ++ name
      ↔ fragment <:+: directory.toList ∨ fragment <:+: name := by
  by_cases empty : directory = ""
  · subst empty
    have nothing : fragment <:+: [] → fragment <:+: name := fun found =>
      found.trans List.nil_infix
    simpa [pathStem] using nothing
  · cases closed : endsWith directory "/" with
    | false =>
        simp [pathStem, empty, closed, infix_append_mark pathless]
    | true =>
        obtain ⟨before, own⟩ := List.isSuffixOf_iff_suffix.mp closed
        have within : fragment <:+: directory.toList ↔ fragment <:+: before := by
          rw [← own]
          exact (infix_append_mark pathless).trans
            (or_iff_left_of_imp fun found => found.trans List.nil_infix)
        rw [within, pathStem, closed, Bool.or_true, if_pos rfl, ← own, List.append_assoc]
        exact infix_append_mark pathless

theorem holds_joinPath {name fragment : String} (relative : startsWith name "/" = false)
    (pathless : '/' ∉ fragment.toList) (directory : String)
    : holds (joinPath directory name) fragment
      = (holds directory fragment || holds name fragment) := by
  rw [joinPath_eq relative, Bool.eq_iff_iff, Bool.or_eq_true, holds_iff, holds_iff, holds_iff,
    String.toList_append, infix_pathStem_append pathless]

end GuestLaunch
