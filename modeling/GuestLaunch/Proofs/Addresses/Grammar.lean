import GuestLaunch.Proofs.Addresses.Functions
import GuestLaunch.Proofs.Addresses.Numbers
import GuestLaunch.Proofs.Documents.Literals
import GuestLaunch.Proofs.Placement.PortMarks

/-!
The grammar of addresses. The addresses that are read as a slot are those that write it: a number in
decimal, or in hexadecimal behind its mark, that blanks may surround and a bus path may precede. So
a slot is read back from what is written for it, with or without a path and a function.
-/

namespace GuestLaunch
open Text

-----------------------------------------------------------------------------------------
-- Blanks and bus paths
-----------------------------------------------------------------------------------------

namespace Text

/-- Trimming a text removes blanks from its ends. -/
theorem exists_blanks_trim (text : List Char)
    : ∃ left right,
        text = left ++ trim text ++ right
        ∧ (∀ symbol ∈ left, isBlank symbol = true)
        ∧ ∀ symbol ∈ right, isBlank symbol = true := by
  let inner := text.dropWhile isBlank
  refine ⟨text.takeWhile isBlank, (inner.reverse.takeWhile isBlank).reverse, ?_,
    fun _ => List.mem_takeWhile_imp, ?_⟩
  · rw [trim, List.append_assoc, ← List.reverse_append, List.takeWhile_append_dropWhile,
      List.reverse_reverse, List.takeWhile_append_dropWhile]
  · intro symbol member
    exact List.mem_takeWhile_imp (List.mem_reverse.mp member)

/-- Blanks are dropped up to a text without blanks. -/
theorem dropWhile_blanks {blanks solid : List Char} (rest : List Char)
    (blank : ∀ symbol ∈ blanks, isBlank symbol = true)
    (clear : ∀ symbol ∈ solid, isBlank symbol = false) (some : solid ≠ [])
    : (blanks ++ (solid ++ rest)).dropWhile isBlank = solid ++ rest := by
  rw [List.dropWhile_append_of_pos blank]
  cases solid with
  | nil => exact absurd rfl some
  | cons first others => simp [clear first List.mem_cons_self]

/-- A text without blanks is what trimming leaves of it between blanks. -/
theorem trim_blanks {left solid right : List Char}
    (blankLeft : ∀ symbol ∈ left, isBlank symbol = true)
    (blankRight : ∀ symbol ∈ right, isBlank symbol = true)
    (clear : ∀ symbol ∈ solid, isBlank symbol = false) (some : solid ≠ [])
    : trim (left ++ solid ++ right) = solid := by
  have behind : (right.reverse ++ (solid.reverse ++ [])).dropWhile isBlank = solid.reverse ++ [] :=
    dropWhile_blanks [] (by simpa using blankRight) (by simpa using clear) (by simpa using some)
  rw [List.append_nil] at behind
  rw [trim, List.append_assoc, dropWhile_blanks right blankLeft clear some, List.reverse_append,
    behind, List.reverse_reverse]

end Text

namespace BusAddress

/-- A text that may stand before an address: nothing, or names of buses up to a slash. -/
def IsBusPath (path : List Char) : Prop := path = [] ∨ ∃ names, path = names ++ ['/']

theorem afterLast_concat (mark : Char) (before : List Char)
    : afterLast mark (before ++ [mark]) = [] := by
  simp [afterLast]

theorem isBusPath_busPath (address : String) : IsBusPath (busPath address) := by
  rw [busPath]
  cases path : address.toList.reverse.dropWhile (· != '/') with
  | nil => exact Or.inl rfl
  | cons last names =>
      have kept := List.head?_dropWhile_not (· != '/') address.toList.reverse
      rw [path] at kept
      obtain rfl : last = '/' := by simpa using kept
      exact Or.inr ⟨names.reverse, List.reverse_cons⟩

theorem afterLast_busPath {path text : List Char} (busPath : IsBusPath path)
    (pathless : '/' ∉ text)
    : afterLast '/' (path ++ text) = text := by
  rw [afterLast_append pathless]
  rcases busPath with rfl | ⟨names, rfl⟩
  · rfl
  · rw [afterLast_concat, List.nil_append]

-----------------------------------------------------------------------------------------
-- Addresses
-----------------------------------------------------------------------------------------

/-- A text writes a slot: a number in decimal, or one in hexadecimal behind its mark. -/
inductive WritesSlot : List Char → Nat → Prop
  | decimal {text : List Char} {slot : Nat} (number : Numeral.WritesNatural 10 text slot)
    : WritesSlot text slot
  | hexadecimal {mark : Char} {text : List Char} {slot : Nat} (marked : mark = 'x' ∨ mark = 'X')
    (number : Numeral.WritesNatural 16 text slot)
    : WritesSlot ('0' :: mark :: text) slot

/-- An address names a slot: blanks may surround what writes the slot, behind a bus path. -/
def NamesSlot (address : List Char) (slot : Nat) : Prop :=
  ∃ path left text right,
    address = path ++ (left ++ text ++ right)
    ∧ IsBusPath path
    ∧ (∀ symbol ∈ left ++ right, isBlank symbol = true)
    ∧ WritesSlot text slot

/-- A text that is read as a decimal number has no mark of a hexadecimal one. -/
theorem number?_of_decimal {text : List Char} {slot : Nat}
    (read : Numeral.natural? 10 UInt64.size text = some slot)
    : number? text = some slot := by
  have unmarked : 'x' ∉ text ∧ 'X' ∉ text := by
    constructor
    all_goals
      intro member
      exact absurd (Numeral.symbol_of_natural? read _ member) (by decide)
  unfold number?
  split
  · exact absurd (by simp) unmarked.1
  · exact absurd (by simp) unmarked.2
  · exact read

/-- A number of 64 bits is read from a text that writes it, by the mark that tells its base. -/
theorem number?_eq_some_iff {text : List Char} {slot : Nat}
    : number? text = some slot ↔ WritesSlot text slot ∧ slot < 2 ^ 64 := by
  have natural {base : Nat} (small : base ≤ 16) (text : List Char)
      : Numeral.natural? base UInt64.size text = some slot
        ↔ Numeral.WritesNatural base text slot ∧ slot < 2 ^ 64 :=
    Numeral.natural?_eq_some_iff small
  constructor
  · intro read
    unfold number? at read
    split at read
    · obtain ⟨number, small⟩ := (natural (by decide) _).mp read
      exact ⟨.hexadecimal (Or.inl rfl) number, small⟩
    · obtain ⟨number, small⟩ := (natural (by decide) _).mp read
      exact ⟨.hexadecimal (Or.inr rfl) number, small⟩
    · obtain ⟨number, small⟩ := (natural (by decide) _).mp read
      exact ⟨.decimal number, small⟩
  · rintro ⟨writes, small⟩
    cases writes with
    | decimal number => exact number?_of_decimal ((natural (by decide) _).mpr ⟨number, small⟩)
    | hexadecimal marked number =>
        have read := (natural (by decide) _).mpr ⟨number, small⟩
        rcases marked with rfl | rfl
        · exact read
        · exact read

/-- A number consists of symbols that are neither blanks nor slashes. -/
theorem solid_of_number? {text : List Char} {slot : Nat} (read : number? text = some slot)
    : ∀ symbol ∈ text, isBlank symbol = false ∧ symbol ≠ '/' := by
  intro symbol member
  rcases symbol_of_number? read symbol member with mark | digit
  · simp only [List.mem_cons, List.not_mem_nil, or_false] at mark
    rcases mark with rfl | rfl | rfl | rfl
    all_goals decide
  · obtain ⟨value, found⟩ := Option.ne_none_iff_exists'.mp digit
    obtain ⟨small, rfl | rfl⟩ := Numeral.anyDigit?_eq_some_iff.mp found
    · have every : ∀ value < 16, isBlank value.digitChar = false ∧ value.digitChar ≠ '/' := by
        decide
      exact every value small
    · have every
          : ∀ value < 16,
              isBlank value.digitChar.toUpper = false ∧ value.digitChar.toUpper ≠ '/' := by
        decide
      exact every value small

/-- An address is read as the slot that it names. -/
theorem slot?_eq_some_iff {address : String} {slot : Nat}
    : slot? address = some slot ↔ NamesSlot address.toList slot ∧ slot < 2 ^ 64 := by
  constructor
  · intro read
    obtain ⟨writes, small⟩ := number?_eq_some_iff.mp read
    obtain ⟨left, right, trimmed, blankLeft, blankRight⟩ :=
      exists_blanks_trim (afterLast '/' address.toList)
    have split := busPath_append_afterLast address
    rw [trimmed] at split
    exact ⟨⟨busPath address, left, _, right, split.symm, isBusPath_busPath address,
      List.forall_mem_append.mpr ⟨blankLeft, blankRight⟩, writes⟩, small⟩
  · rintro ⟨⟨path, left, text, right, split, busPath, blank, writes⟩, small⟩
    have read := number?_eq_some_iff.mpr ⟨writes, small⟩
    have solid := solid_of_number? read
    obtain ⟨blankLeft, blankRight⟩ := List.forall_mem_append.mp blank
    have some : text ≠ [] := by
      rintro rfl
      cases read
    have pathless : '/' ∉ left ++ text ++ right := by
      intro member
      simp only [List.mem_append] at member
      rcases member with (before | inside) | behind
      · exact absurd (blankLeft _ before) (by decide)
      · exact (solid _ inside).2 rfl
      · exact absurd (blankRight _ behind) (by decide)
    rw [slot?, split, afterLast_busPath busPath pathless,
      trim_blanks blankLeft blankRight (fun symbol member => (solid symbol member).1) some, read]

/-- A slot that an address is read as is also read where a function may follow, and none does. -/
theorem slotBeforeFunction?_of_slot? {address : String} {slot : Nat}
    (read : slot? address = some slot)
    : slotBeforeFunction? address = some slot := by
  rw [slot?_eq] at read
  split at read
  · cases read
  · exact read

-----------------------------------------------------------------------------------------
-- Written slots
-----------------------------------------------------------------------------------------

/-- The texts that are written for a slot. -/
def writtenForms (slot : Nat) : List String := [decimal slot, hexadecimalByte slot]

theorem writesSlot_of_mem_writtenForms {slot : Nat} {text : String}
    (member : text ∈ writtenForms slot)
    : WritesSlot text.toList slot := by
  have writes {base : Nat} (small : base ≤ 16) {digits : List Char} (some : digits ≠ [])
      (read : Numeral.digits? base digits = Option.some slot)
      : Numeral.WritesNatural base digits slot :=
    ⟨digits, Or.inl rfl, (Numeral.digits?_eq_some_iff small some).mp read⟩
  simp only [writtenForms, List.mem_cons, List.not_mem_nil, or_false] at member
  rcases member with rfl | rfl
  · rw [decimal, String.toList_ofList]
    exact .decimal (writes (by decide) (Numeral.write_ne_nil 10 slot)
      (Numeral.digits?_write (by decide) (by decide) slot))
  · have symbols : (hexadecimalByte slot).toList = '0' :: 'x' :: Numeral.writePadded 16 2 slot := by
      simp [hexadecimalByte]
    have some : Numeral.writePadded 16 2 slot ≠ [] := by
      simp [Numeral.writePadded, Numeral.write_ne_nil]
    rw [symbols]
    exact .hexadecimal (Or.inl rfl) (writes (by decide) some
      (Numeral.digits?_writePadded (by decide) (by decide) 2 slot))

/-- An address names the slot that is written in it, whatever bus path stands before. -/
theorem namesSlot_of_writesSlot {text : List Char} {slot : Nat} (writes : WritesSlot text slot)
    {path : List Char} (busPath : IsBusPath path)
    : NamesSlot (path ++ text) slot :=
  ⟨path, [], text, [], by simp, busPath, List.forall_mem_nil _, writes⟩

/-- How the addresses of a slot are read. -/
structure AddressesRead (slot : Nat) : Prop where
  /-- A slot of 64 bits is read from the addresses that name it, and from no others. -/
  named : ∀ address, slot? address = some slot ↔ NamesSlot address.toList slot ∧ slot < 2 ^ 64
  /-- It is then read in the same way where a function may follow. -/
  alike : ∀ address, slot? address = some slot → slotBeforeFunction? address = some slot
  /-- What is written for a slot is read back, alone, behind a bus path, and before a function. -/
  written
    : slot < 2 ^ 64
      → ∀ text ∈ writtenForms slot,
        ∀ path function : String,
          '/' ∉ function.toList
          → ∀ address ∈
              [text, path ++ "/" ++ text, text ++ "." ++ function,
                path ++ "/" ++ text ++ "." ++ function],
            slotBeforeFunction? address = some slot

/-- Every slot is read from its addresses. -/
theorem addresses_read (slot : Nat) : AddressesRead slot where
  named _ := slot?_eq_some_iff
  alike _ := slotBeforeFunction?_of_slot?
  written := by
    intro small text member path function pathless address listed
    have writes := writesSlot_of_mem_writtenForms member
    have bare : slotBeforeFunction? text = some slot := by
      apply slotBeforeFunction?_of_slot?
      exact slot?_eq_some_iff.mpr ⟨namesSlot_of_writesSlot writes (Or.inl rfl), small⟩
    have behind : slotBeforeFunction? (path ++ "/" ++ text) = some slot := by
      apply slotBeforeFunction?_of_slot?
      have symbols : (path ++ "/" ++ text).toList = path.toList ++ ['/'] ++ text.toList := by simp
      rw [slot?_eq_some_iff, symbols]
      exact ⟨namesSlot_of_writesSlot writes (Or.inr ⟨path.toList, rfl⟩), small⟩
    simp only [List.mem_cons, List.not_mem_nil, or_false] at listed
    rcases listed with rfl | rfl | rfl | rfl
    · exact bare
    · exact behind
    · exact (slotBeforeFunction?_append pathless text).trans bare
    · exact (slotBeforeFunction?_append pathless _).trans behind

/-- A sign may stand behind the mark of a hexadecimal number, and none before it. -/
example : slot? "pcie.0/ 0X+1E\t" = some 30 ∧ slot? "+0x1e" = none := by decide +kernel

end BusAddress

end GuestLaunch
