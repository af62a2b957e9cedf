import GuestLaunch.Problem

/-!
Boot indices as they are configured: a number, or the keyword that asks for the next free one.
-/

namespace GuestLaunch.BootIndex

/-- The keyword that asks for the next free index. -/
def automatic : String := "auto"

/-- The number of an explicit index. The keyword and any other text that is not a number of
32 bits have none.
-/
def explicit? (configured : String) : Option UInt32 :=
  (Text.Numeral.natural? 10 UInt32.size configured.toList).map UInt32.ofNat

/-- Checks that an index is unset, the keyword, or explicit. -/
def check (subject : String) (configured : Option String) : Option Problem :=
  match configured with
  | none => none
  | some value =>
      if value.isEmpty || value == automatic || (explicit? value).isSome then none
      else
        some (.invalidValue subject "bootindex" value "'auto' or a non-negative integer")

end GuestLaunch.BootIndex
