import GuestLaunch.Proofs.Smbios.LeadingIntegers

/-!
Where the integer at the start of a text ends. The place is told by lengths in bytes: of the text,
of the text without its sign, and of what follows the digits. It never lies within a symbol,
whatever symbols follow, and cutting the text there gives the integer that is read from its start.
-/

namespace GuestLaunch
open Json.Number (EndsDigits)

namespace Text.Numeral

-----------------------------------------------------------------------------------------
-- Lengths in bytes
-----------------------------------------------------------------------------------------

/-- A text without its sign, if it has one. -/
def withoutSign (text : String) : String := String.ofList (splitSign text.toList).2

/-- A text without the digits at its start. -/
def withoutDigits (text : String) : String :=
  String.ofList (text.toList.dropWhile isDecimalDigit)

/-- How many bytes the digits behind the sign of a text take. -/
def digitBytes (text : String) : Nat :=
  (withoutSign text).utf8ByteSize - (withoutDigits (withoutSign text)).utf8ByteSize

/-- The place behind the sign and the digits of a text, counted in bytes. -/
def integerEnd (text : String) : String.Pos.Raw :=
  ⟨text.utf8ByteSize - (withoutSign text).utf8ByteSize + digitBytes text⟩

/-- A place at which a text cannot be cut: within a symbol, or behind the end. -/
structure NoBoundary where
  place : String.Pos.Raw

/-- Cuts a text at a place that is counted in bytes. -/
def cutAt (text : String) (place : String.Pos.Raw) : Except NoBoundary (String × String) :=
  if boundary : place.IsValid text then
    let position := text.pos place boundary
    .ok ((text.sliceTo position).copy, (text.sliceFrom position).copy)
  else
    .error ⟨place⟩

/-- Reads an integer of 64 bits that takes the whole text: one sign or none, and digits. -/
def wholeInteger? (text : String) : Option Int :=
  let (negative, unsigned) := splitSign text.toList
  match unsigned with
  | [] => none
  | digits => do
      let magnitude ← digits? 10 digits
      let value : Int := if negative then -magnitude else magnitude
      if int64Range.1 ≤ value ∧ value ≤ int64Range.2 then some value else none

/-- Reads the integer that a text starts with by cutting the text where the integer ends. -/
def cutLeadingInteger (text : String) : Except NoBoundary (Option (Int × String)) :=
  if digitBytes text = 0 then .ok none
  else do
    let (written, rest) ← cutAt text (integerEnd text)
    pure ((wholeInteger? written).map fun value => (value, rest))

/-- A text is cut without an error between two texts that make it up. -/
theorem cutAt_append (before behind : String)
    : cutAt (before ++ behind) before.rawEndPos = .ok (before, behind) := by
  have boundary : before.rawEndPos.IsValid (before ++ behind) :=
    String.Pos.Raw.isValid_iff_exists_append.mpr ⟨before, behind, rfl, rfl⟩
  have splits : ((before ++ behind).pos before.rawEndPos boundary).Splits before behind :=
    ⟨rfl, rfl⟩
  rw [cutAt, dif_pos boundary]
  obtain ⟨taken, left⟩ := (String.Pos.splits _).eq splits
  simp only [taken, left]

-----------------------------------------------------------------------------------------
-- The parts of a text
-----------------------------------------------------------------------------------------

/-- The sign of a text is read alike before any digits, by the kind of the sign. -/
theorem exists_sign (text : List Char)
    : ∃ sign,
        text = sign ++ (splitSign text).2
        ∧ ∀ digits,
            IsDigitRun digits → splitSign (sign ++ digits) = ((splitSign text).1, digits) := by
  fun_cases splitSign text with
  | case1 rest => exact ⟨['-'], rfl, fun _ _ => rfl⟩
  | case2 rest => exact ⟨['+'], rfl, fun _ _ => rfl⟩
  | case3 plus minus =>
      refine ⟨[], rfl, fun digits run => ?_⟩
      simpa using run.splitSign_append []

/-- A text consists of a sign, digits and a rest, of which the readers take the digits. -/
structure HasParts (text sign digits rest : String) : Prop where
  whole : text = sign ++ digits ++ rest
  unsigned : withoutSign text = digits ++ rest
  undigited : withoutDigits (withoutSign text) = rest
  taken : digits.toList = (splitSign text.toList).2.takeWhile isDecimalDigit
  dropped : rest.toList = (splitSign text.toList).2.dropWhile isDecimalDigit
  /-- The sign is read alike with nothing behind the digits. -/
  signed
    : IsDigitRun digits.toList
      → splitSign (sign ++ digits).toList = ((splitSign text.toList).1, digits.toList)

theorem exists_parts (text : String) : ∃ sign digits rest, HasParts text sign digits rest := by
  obtain ⟨sign, whole, signed⟩ := exists_sign text.toList
  let unsigned := (splitSign text.toList).2
  have split : unsigned = unsigned.takeWhile isDecimalDigit ++ unsigned.dropWhile isDecimalDigit :=
    List.takeWhile_append_dropWhile.symm
  refine ⟨String.ofList sign, String.ofList (unsigned.takeWhile isDecimalDigit),
    String.ofList (unsigned.dropWhile isDecimalDigit), ?_, ?_, ?_, ?_, ?_, ?_⟩
  · apply String.toList_injective
    simpa using whole
  · rw [withoutSign, ← String.ofList_append, ← split]
  · rw [withoutDigits, withoutSign, String.toList_ofList]
  · rw [String.toList_ofList]
  · rw [String.toList_ofList]
  · intro run
    simpa using signed _ run

namespace HasParts
variable {text sign digits rest : String}

/-- The lengths that tell the place where the integer ends are those of its parts. -/
theorem digitBytes_eq (parts : HasParts text sign digits rest)
    : digitBytes text = digits.utf8ByteSize := by
  rw [digitBytes, parts.undigited, parts.unsigned, String.utf8ByteSize_append, Nat.add_sub_cancel]

theorem integerEnd_eq (parts : HasParts text sign digits rest)
    : integerEnd text = (sign ++ digits).rawEndPos := by
  have whole : text.utf8ByteSize
      = sign.utf8ByteSize + digits.utf8ByteSize + rest.utf8ByteSize := by
    rw [parts.whole, String.utf8ByteSize_append, String.utf8ByteSize_append]
  have unsigned : (withoutSign text).utf8ByteSize = digits.utf8ByteSize + rest.utf8ByteSize := by
    rw [parts.unsigned, String.utf8ByteSize_append]
  apply String.Pos.Raw.ext
  rw [String.byteIdx_rawEndPos, String.utf8ByteSize_append]
  show text.utf8ByteSize - (withoutSign text).utf8ByteSize + digitBytes text = _
  rw [parts.digitBytes_eq]
  omega

/-- The text is cut behind the digits. -/
theorem cutAt_integerEnd (parts : HasParts text sign digits rest)
    : cutAt text (integerEnd text) = .ok (sign ++ digits, rest) := by
  rw [parts.integerEnd_eq]
  conv => lhs; rw [parts.whole]
  exact cutAt_append (sign ++ digits) rest

/-- What is cut off the text is read as the integer that the text starts with. -/
theorem leadingInteger?_eq_wholeInteger? (parts : HasParts text sign digits rest)
    (some : digits ≠ "")
    : leadingInteger? text.toList
      = (wholeInteger? (sign ++ digits)).map fun value => (value, rest.toList) := by
  have run : IsDigitRun digits.toList := by
    refine ⟨by simpa using some, ?_⟩
    rw [parts.taken]
    exact fun _ => List.mem_takeWhile_imp
  have signed := parts.signed run
  have split : splitSign text.toList = ((splitSign text.toList).1, (splitSign text.toList).2) := rfl
  rw [leadingInteger?, wholeInteger?, signed, split]
  simp only [← parts.taken, ← parts.dropped]
  cases symbols : digits.toList with
  | nil => exact absurd symbols run.nonempty
  | cons first others =>
      rw [symbols] at run
      simp only [digits?_eq_magnitude run.digits, Option.bind_eq_bind, Option.bind_some,
        apply_ite (Option.map _), Option.map_some, Option.map_none]

/-- Nothing is read without digits. -/
theorem leadingInteger?_of_no_digits (parts : HasParts text sign "" rest)
    : leadingInteger? text.toList = none := by
  have none : (splitSign text.toList).2.takeWhile isDecimalDigit = [] := parts.taken.symm
  simp only [leadingInteger?, none]

end HasParts

/-- Cutting a text gives the integer that it starts with, and is possible for every text. -/
theorem cutLeadingInteger_eq (text : String)
    : cutLeadingInteger text
      = .ok ((leadingInteger? text.toList).map fun found => (found.1, String.ofList found.2)) := by
  obtain ⟨sign, digits, rest, parts⟩ := exists_parts text
  rw [cutLeadingInteger, parts.digitBytes_eq]
  by_cases empty : digits = ""
  · subst empty
    rw [parts.leadingInteger?_of_no_digits]
    rfl
  · have some : digits.utf8ByteSize ≠ 0 := by simpa using empty
    rw [if_neg some, parts.cutAt_integerEnd, parts.leadingInteger?_eq_wholeInteger? empty]
    show Except.ok ((wholeInteger? (sign ++ digits)).map fun value => (value, rest)) = _
    simp only [Option.map_map, Function.comp_def, String.ofList_toList]

-----------------------------------------------------------------------------------------
-- The reader
-----------------------------------------------------------------------------------------

/-- A text starts with an integer of 64 bits, written with one sign or none, and a rest follows that
does not go on with a digit.
-/
def StartsWithInteger (text : List Char) (value : Int) (rest : List Char) : Prop :=
  ∃ written, text = written ++ rest ∧ WritesInteger written value ∧ FitsWord value ∧ EndsDigits rest

/-- How the integer at the start of a text is read. -/
structure LeadingIntegerRead (text : String) : Prop where
  found
    : ∀ value rest,
        leadingInteger? text.toList = some (value, rest)
        ↔ StartsWithInteger text.toList value rest
  absent
    : leadingInteger? text.toList = none
      ↔ ∀ value rest, ¬StartsWithInteger text.toList value rest
  /-- No difference between the lengths in bytes is negative. -/
  lengths
    : (withoutDigits (withoutSign text)).utf8ByteSize ≤ (withoutSign text).utf8ByteSize
      ∧ (withoutSign text).utf8ByteSize ≤ text.utf8ByteSize
  /-- The place to which the lengths lead is a boundary between symbols. -/
  boundary : (integerEnd text).IsValid text
  /-- So the text can be cut there, and the integer and the rest are what the cut gives. -/
  cut
    : cutLeadingInteger text
      = .ok ((leadingInteger? text.toList).map fun found => (found.1, String.ofList found.2))

/-- The integer at the start of a text is read exactly, by its parts. -/
theorem leadingInteger_read (text : String) : LeadingIntegerRead text := by
  obtain ⟨sign, digits, rest, parts⟩ := exists_parts text
  have found (value : Int) (rest : List Char)
      : leadingInteger? text.toList = some (value, rest)
        ↔ StartsWithInteger text.toList value rest :=
    leadingInteger?_eq_some_iff
  constructor
  case found => exact found
  case absent =>
    simp only [← found, Option.eq_none_iff_forall_ne_some, Prod.forall, Ne]
  case lengths =>
    have whole := congrArg String.utf8ByteSize parts.whole
    have unsigned := congrArg String.utf8ByteSize parts.unsigned
    simp only [String.utf8ByteSize_append] at whole unsigned
    rw [parts.undigited]
    omega
  case boundary =>
    rw [parts.integerEnd_eq, String.Pos.Raw.isValid_iff_exists_append]
    exact ⟨sign ++ digits, rest, parts.whole, rfl⟩
  case cut => exact cutLeadingInteger_eq text

/-- A symbol of two bytes may follow the digits. -/
example : cutLeadingInteger "-12µs" = .ok (some (-12, "µs")) := by rfl

end Text.Numeral

end GuestLaunch
