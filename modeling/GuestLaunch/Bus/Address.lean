import GuestLaunch.Text.Blank
import GuestLaunch.Text.Numeral

/-!
Addresses on a bus. An address is a number in decimal, or in hexadecimal after `0x`; a bus
path may stand before it, up to a slash, and a function may follow its slot after a dot.
-/

namespace GuestLaunch.BusAddress
open Text

/-- The text after the last occurrence of a mark, which is all of it where there is none. -/
def afterLast (mark : Char) (text : List Char) : List Char :=
  (text.reverse.takeWhile (· != mark)).reverse

/-- The text before the first occurrence of a mark, which is all of it where there is none. -/
def beforeFirst (mark : Char) (text : List Char) : List Char :=
  text.takeWhile (· != mark)

/-- Reads one number of 64 bits: in hexadecimal after `0x` or `0X`, else in decimal. -/
def number? : List Char → Option Nat
  | '0' :: 'x' :: digits => Numeral.natural? 16 UInt64.size digits
  | '0' :: 'X' :: digits => Numeral.natural? 16 UInt64.size digits
  | digits => Numeral.natural? 10 UInt64.size digits

/-- The slot that an address names, where the part behind the bus path is one number. -/
def slot? (address : String) : Option Nat :=
  number? (trim (afterLast '/' address.toList))

/-- The slot that an address names, where a function may follow the slot. -/
def slotBeforeFunction? (address : String) : Option Nat :=
  slot? (String.ofList (beforeFirst '.' (afterLast '/' address.toList)))

end GuestLaunch.BusAddress
