import GuestLaunch.Text.Numeral

/-!
Numbers of JSON, kept as they are written: a reader that wants an integer can tell `1` from
`1.0`, and a number that is skipped over has no size limit.
-/

namespace GuestLaunch.Json
open Text

/-- A number: its sign, the value before the point, the digits behind it and the exponent.
There is a point exactly where there are digits behind it.
-/
structure Number where
  negative : Bool := false
  whole : Nat := 0
  fraction : List Nat := []
  exponent : Option Int := none
deriving DecidableEq, Repr, Inhabited

namespace Number

/-- The number that writes an integer. -/
def ofInt (value : Int) : Number := { negative := value < 0, whole := value.natAbs }

/-- The integer that a number writes. A number with a point or an exponent writes none, and
neither does a negative zero.
-/
def toInt? (number : Number) : Option Int :=
  if number.fraction ≠ [] ∨ number.exponent ≠ none then none
  else if number.negative then
    if number.whole = 0 then none else some (-number.whole)
  else some number.whole

/-- Reading the integer back from the number that writes it.
Only a negative integer has a sign, and it is not zero.
-/
theorem toInt?_ofInt (value : Int)
    : (ofInt value).toInt? = some value := by
  unfold toInt? ofInt
  rw [if_neg (by simp)]
  by_cases negative : value < 0
  · have whole : value.natAbs ≠ 0 := by omega
    have same : -(value.natAbs : Int) = value := by omega
    rw [if_pos (by simpa using negative), if_neg whole, same]
  · have same : (value.natAbs : Int) = value := by omega
    rw [if_neg (by simpa using negative), same]

-----------------------------------------------------------------------------------------
-- The written form
-----------------------------------------------------------------------------------------

/-- Splits a text into its leading digits and the rest. -/
def spanDigits (text : List Char) : List Char × List Char :=
  (text.takeWhile Numeral.isDecimalDigit, text.dropWhile Numeral.isDecimalDigit)

/-- Reads the exponent that ends a number; there is none at the end of the text. -/
def readExponent? : List Char → Option (Option Int)
  | [] => some none
  | mark :: text =>
      if mark = 'e' ∨ mark = 'E' then
        let (negative, unsigned) := Numeral.splitSign text
        match spanDigits unsigned with
        | (digits@(_ :: _), []) => do
            let magnitude ← Numeral.digits? 10 digits
            some (some (if negative then -(magnitude : Int) else magnitude))
        | _ => none
      else
        none

/-- Reads the digits behind the point, if there is a point, and gives what follows. -/
def readFraction? : List Char → Option (List Nat × List Char)
  | '.' :: text =>
      match spanDigits text with
      | ([], _) => none
      | (digits, rest) => do
          let values ← digits.mapM (Numeral.digit? 10)
          some (values, rest)
  | text => some ([], text)

/-- Whether the digits before a point are fit to be written: at least one, and no zero before
another digit.
-/
def isWhole : List Char → Bool
  | [] => false
  | ['0'] => true
  | first :: _ => first != '0'

/-- Reads a number from a whole text. -/
def read? (text : List Char) : Option Number := do
  let (negative, unsigned) :=
    match text with
    | '-' :: rest => (true, rest)
    | _ => (false, text)
  let (digits, rest) := spanDigits unsigned
  if isWhole digits then
    let whole ← Numeral.digits? 10 digits
    let (fraction, rest) ← readFraction? rest
    let exponent ← readExponent? rest
    some { negative, whole, fraction, exponent }
  else
    none

/-- The written form of an exponent. -/
def writeExponent : Option Int → List Char
  | none => []
  | some exponent => 'e' :: (signedDecimal exponent).toList

/-- The written form of a number. -/
def write (number : Number) : List Char :=
  (if number.negative then ['-'] else [])
    ++ Numeral.write 10 number.whole
    ++ (if number.fraction = [] then [] else '.' :: number.fraction.map Numeral.digitSymbol)
    ++ writeExponent number.exponent

-----------------------------------------------------------------------------------------
-- The range of a double
-----------------------------------------------------------------------------------------

/-- Appends a digit to a significand of 64 bits; none where it no longer fits. -/
def appendDigit? (significand digit : Nat) : Option Nat :=
  let extended := significand * 10 + digit
  if extended < UInt64.size then some extended else none

/-- Collects the digits before the point as far as 64 bits hold them, and counts the digits
that are left over.
-/
def collectWhole (significand : Nat) : List Nat → Nat × Nat
  | [] => (significand, 0)
  | digit :: rest =>
      match appendDigit? significand digit with
      | some extended => collectWhole extended rest
      | none => (significand, rest.length + 1)

/-- Collects the digits behind the point as far as 64 bits hold them, and counts the digits
that were taken; the digits that are left over are dropped.
-/
def collectFraction (significand : Nat) : List Nat → Nat × Nat
  | [] => (significand, 0)
  | digit :: rest =>
      match appendDigit? significand digit with
      | some extended =>
          let (collected, taken) := collectFraction extended rest
          (collected, taken + 1)
      | none => (significand, 0)

/-- The significand of 64 bits and the power of ten by which a number is evaluated. -/
def scaled (number : Number) : Nat × Int :=
  let digits := (Numeral.write 10 number.whole).filterMap (Numeral.digit? 10)
  let (significand, left) := collectWhole 0 digits
  let (significand, taken) := collectFraction significand number.fraction
  (significand, (left : Int) - taken + number.exponent.getD 0)

/-- Rounds to the nearest number with a significand of 53 bits, a tie to the even one. -/
def roundToDouble (value : Nat) : Nat :=
  let unit := Nat.pow 2 (value.log2 + 1 - 53)
  let quotient := value / unit
  let twice := 2 * (value % unit)
  let up := unit < twice ∨ (unit = twice ∧ quotient % 2 = 1)
  (if up then quotient + 1 else quotient) * unit

/-- The least value that rounds beyond the largest finite double. -/
def doubleOverflow : Nat := Nat.pow 2 1024 - Nat.pow 2 970

/-- The largest power of ten that a double holds. -/
def lastPowerOfTen : Int := 308

/-- Whether a number without a point and an exponent fits 64 bits, and so needs no double. -/
def isWord (number : Number) : Bool :=
  number.fraction.isEmpty && number.exponent.isNone && number.whole < UInt64.size

/-- Whether a number lies in the range of a double, as far as it needs one. Its significand and
its power of ten are rounded to doubles, and so is their product.
-/
def isFinite (number : Number) : Bool :=
  let (significand, exponent) := number.scaled
  if number.isWord ∨ significand = 0 ∨ exponent < 0 then true
  else if lastPowerOfTen < exponent then false
  else roundToDouble significand * roundToDouble (Nat.pow 10 exponent.toNat) < doubleOverflow

/-- The number that writes an integer of 64 bits needs no double. -/
theorem isFinite_ofInt (value : Int) (fits : value.natAbs < UInt64.size)
    : (ofInt value).isFinite = true := by
  have word : (ofInt value).isWord = true := decide_eq_true fits
  exact if_pos (Or.inl word)

end Number

end GuestLaunch.Json
