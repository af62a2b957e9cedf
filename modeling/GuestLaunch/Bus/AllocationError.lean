import GuestLaunch.Text.Numeral

/-!
Why a device could not be given its place on the root bus, or its number in an index
category, and the text that says so.
-/

namespace GuestLaunch

/-- The causes for which an allocation fails. -/
inductive AllocationError where
  /-- No slot from `last` down to `first` is free. -/
  | exhausted (first last : Nat)
  /-- The requested slot is occupied. -/
  | collision (slot : Nat)
  /-- The requested slot lies beyond the end of the bus. -/
  | outOfRange (slot : Nat)
  /-- The requested index is recorded already. -/
  | indexTaken (category : String) (index : UInt32)
  /-- An index category needs a name. -/
  | emptyCategory
  /-- The largest index of the category has no successor: its 32 bits overflow. The launcher stops
  there without an outcome of its own, so the text for this cause is one of this library only.
  -/
  | noNextIndex (category : String)
deriving DecidableEq, Repr

def AllocationError.message : AllocationError → String
  | exhausted first last =>
      "no free PCI slot left (searched " ++ Text.hexadecimalByte last ++ " down to "
        ++ Text.hexadecimalByte first ++ ")"
  | collision slot => "PCI slot " ++ Text.hexadecimalByte slot ++ " is already allocated"
  | outOfRange slot => "PCI slot " ++ Text.decimal slot ++ " is out of range"
  | indexTaken category index =>
      category ++ " index " ++ Text.decimal index.toNat ++ " already set"
  | emptyCategory => "invalid empty index category"
  | noNextIndex category => category ++ " index has no successor"

end GuestLaunch
