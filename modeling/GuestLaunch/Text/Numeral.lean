/-!
Numerals: how whole numbers are read from text and written to it. A reader takes a whole
text, except `leadingInteger?`, which takes the longest number that a text starts with. What
is written in a base is read back in it.
-/

namespace GuestLaunch.Text.Numeral

/-- The value of a digit of at most base sixteen, in either case. -/
def anyDigit? (symbol : Char) : Option Nat :=
  if '0' ≤ symbol ∧ symbol ≤ '9' then some (symbol.toNat - '0'.toNat)
  else if 'a' ≤ symbol ∧ symbol ≤ 'f' then some (symbol.toNat - 'a'.toNat + 10)
  else if 'A' ≤ symbol ∧ symbol ≤ 'F' then some (symbol.toNat - 'A'.toNat + 10)
  else none

/-- The value of a digit of `base`, which is at most sixteen. -/
def digit? (base : Nat) (symbol : Char) : Option Nat :=
  (anyDigit? symbol).filter (· < base)

/-- The value of a run of digits of `base`, the most significant first; none where
another character stands among them.
-/
def digits? (base : Nat) (symbols : List Char) : Option Nat :=
  symbols.foldlM (fun total symbol => (digit? base symbol).map (total * base + ·)) 0

/-- Drops one leading plus sign. -/
def dropPlus : List Char → List Char
  | '+' :: rest => rest
  | text => text

/-- Reads a natural number below `bound`: one optional plus sign and at least one digit. -/
def natural? (base bound : Nat) (text : List Char) : Option Nat :=
  match dropPlus text with
  | [] => none
  | digits => (digits? base digits).filter (· < bound)

/-- Whether a character is one of the ten ASCII digits. -/
def isDecimalDigit (symbol : Char) : Bool := '0' ≤ symbol && symbol ≤ '9'

/-- Splits an optional sign off a text; the flag tells a minus. -/
def splitSign : List Char → Bool × List Char
  | '-' :: rest => (true, rest)
  | '+' :: rest => (false, rest)
  | text => (false, text)

/-- The least and the greatest integer of 64 bits. -/
def int64Range : Int × Int := (Int64.minValue.toInt, Int64.maxValue.toInt)

/-- Reads the longest integer that a text starts with, and gives what follows it: an optional
sign and a run of decimal digits, with a value of 64 bits.
-/
def leadingInteger? (text : List Char) : Option (Int × List Char) :=
  let (negative, unsigned) := splitSign text
  match unsigned.takeWhile isDecimalDigit with
  | [] => none
  | digits => do
      let magnitude ← digits? 10 digits
      let value : Int := if negative then -magnitude else magnitude
      if int64Range.1 ≤ value ∧ value ≤ int64Range.2 then
        some (value, unsigned.dropWhile isDecimalDigit)
      else
        none

/-- The digit that stands for a value below sixteen, in lower case. -/
def digitSymbol (value : Nat) : Char :=
  if value < 10 then Char.ofNat ('0'.toNat + value) else Char.ofNat ('a'.toNat + (value - 10))

/-- The digits of a number, the most significant first; zero has one digit. -/
def write (base value : Nat) : List Char :=
  if base < 2 ∨ value < base then [digitSymbol value]
  else write base (value / base) ++ [digitSymbol (value % base)]
termination_by value
decreasing_by exact Nat.div_lt_self (by omega) (by omega)

/-- The digits of a number, with zeros before them up to `width`. -/
def writePadded (base width value : Nat) : List Char :=
  let digits := write base value
  List.replicate (width - digits.length) '0' ++ digits

/-- Every number has a digit. -/
theorem write_ne_nil (base value : Nat) : write base value ≠ [] := by
  rw [write]
  split <;> simp

/-- A digit is read as the value that it stands for. -/
theorem digit?_digitSymbol {base value : Nat} (small : base ≤ 16) (below : value < base)
    : digit? base (digitSymbol value) = some value := by
  have every : ∀ value < 16, anyDigit? (digitSymbol value) = some value := by decide
  simp [digit?, every value (by omega), below]

/-- A further digit shifts the value of those before it by one place. -/
theorem digits?_concat (base : Nat) (symbols : List Char) (symbol : Char)
    : digits? base (symbols ++ [symbol])
      = (digits? base symbols).bind fun total =>
          (digit? base symbol).map (total * base + ·) := by
  simp [digits?, List.foldlM_append]

/-- The digits of a number are read as the number, by induction along its digits. -/
theorem digits?_write {base : Nat} (large : 2 ≤ base) (small : base ≤ 16) (value : Nat)
    : digits? base (write base value) = some value := by
  fun_induction write base value with
  | case1 value final =>
      have below : value < base := by omega
      simp [digits?, digit?_digitSymbol small below]
  | case2 value more ih =>
      have below : value % base < base := Nat.mod_lt value (by omega)
      rw [digits?_concat, ih, digit?_digitSymbol small below]
      simp [Nat.div_add_mod']

theorem isDecimalDigit_digitSymbol {value : Nat} (small : value < 10)
    : isDecimalDigit (digitSymbol value) = true := by
  have every : ∀ value < 10, isDecimalDigit (digitSymbol value) = true := by decide
  exact every value small

/-- Every symbol of a number stands for a value below the base, by induction along them. -/
theorem exists_digitSymbol_of_mem_write {base value : Nat} {symbol : Char} (large : 2 ≤ base)
    (member : symbol ∈ write base value)
    : ∃ digit < base, symbol = digitSymbol digit := by
  fun_induction write base value with
  | case1 value final => exact ⟨value, by omega, List.mem_singleton.mp member⟩
  | case2 value more ih =>
      rcases List.mem_append.mp member with before | last
      · exact ih before
      · exact ⟨value % base, Nat.mod_lt value (by omega), List.mem_singleton.mp last⟩

/-- The digits of a decimal number are digits. -/
theorem isDecimalDigit_of_mem_write {value : Nat} {symbol : Char}
    (member : symbol ∈ write 10 value)
    : isDecimalDigit symbol = true := by
  obtain ⟨digit, small, rfl⟩ := exists_digitSymbol_of_mem_write (by decide) member
  exact isDecimalDigit_digitSymbol small

/-- A number below a bound is read back in the base in which it is written: no digit of it is taken
for a sign.
-/
theorem natural?_write_base {base bound value : Nat} (large : 2 ≤ base) (small : base ≤ 16)
    (below : value < bound)
    : natural? base bound (write base value) = some value := by
  have unsigned : dropPlus (write base value) = write base value := by
    cases digits : write base value with
    | nil => rfl
    | cons symbol rest =>
        have member : symbol ∈ write base value := by simp [digits]
        have every : ∀ value < 16, digitSymbol value ≠ '+' := by decide
        have plain : symbol ≠ '+' := by
          obtain ⟨digit, inside, rfl⟩ := exists_digitSymbol_of_mem_write large member
          exact every digit (by omega)
        simp [dropPlus, plain]
  have read : digits? base (write base value) = some value := digits?_write large small value
  rw [natural?, unsigned]
  cases digits : write base value with
  | nil => exact absurd digits (write_ne_nil base value)
  | cons symbol rest =>
      rw [digits] at read
      show (digits? base (symbol :: rest)).filter (· < bound) = some value
      rw [read]
      simp [below]

/-- A decimal number below a bound is read back. -/
theorem natural?_write {bound value : Nat} (below : value < bound)
    : natural? 10 bound (write 10 value) = some value :=
  natural?_write_base (by decide) (by decide) below

end GuestLaunch.Text.Numeral

namespace GuestLaunch.Text

/-- A natural number in decimal. -/
def decimal (value : Nat) : String := String.ofList (Numeral.write 10 value)

/-- An integer in decimal, with a minus sign where it is negative. -/
def signedDecimal (value : Int) : String :=
  if value < 0 then "-" ++ decimal value.natAbs else decimal value.natAbs

/-- A natural number in hexadecimal, in lower case and without a mark. -/
def hexadecimal (value : Nat) : String := String.ofList (Numeral.write 16 value)

/-- A natural number in hexadecimal, after `0x` and with at least two digits. -/
def hexadecimalByte (value : Nat) : String :=
  "0x" ++ String.ofList (Numeral.writePadded 16 2 value)

end GuestLaunch.Text
