import GuestLaunch.Bus.AllocationError

/-!
Indices by category. Explicit indices are recorded; automatic ones continue above the
largest recorded index, so that neither kind ever meets the other.
-/

namespace GuestLaunch

/-- The indices recorded so far, each with its category. -/
structure IndexRegistry where
  taken : List (String × UInt32) := []
deriving DecidableEq, Repr, Inhabited

namespace IndexRegistry

/-- The category of boot priorities. -/
def bootCategory : String := "bootindex"

/-- The category of drive numbers. -/
def driveCategory : String := "drive"

/-- The category of network interface numbers. -/
def netCategory : String := "net"

/-- The indices recorded in a category. -/
def indices (registry : IndexRegistry) (category : String) : List UInt32 :=
  (registry.taken.filter (·.1 == category)).map (·.2)

/-- Whether an index is recorded in a category. -/
def contains (registry : IndexRegistry) (category : String) (index : UInt32) : Bool :=
  registry.taken.contains (category, index)

/-- Records an index, whether or not it is free. -/
def insert (registry : IndexRegistry) (category : String) (index : UInt32) : IndexRegistry :=
  { registry with taken := (category, index) :: registry.taken }

/-- An index is listed in a category exactly if it is recorded there. -/
theorem mem_indices (registry : IndexRegistry) (category : String) (index : UInt32)
    : index ∈ registry.indices category ↔ registry.contains category index = true := by
  simp [indices, contains]

/-- Recording an index adds it to its category and to no other one. -/
theorem contains_insert (registry : IndexRegistry) (category other : String)
    (index further : UInt32)
    : (registry.insert category index).contains other further = true
      ↔ (other = category ∧ further = index) ∨ registry.contains other further = true := by
  simp [insert, contains]

/-- The greatest index of 32 bits. -/
def lastIndex : UInt32 := 0xFFFFFFFF

/-- The index that follows those recorded in a category; none where the greatest possible
one is recorded. Gaps below the largest recorded index are never filled.
-/
def following? (registry : IndexRegistry) (category : String) : Option UInt32 :=
  match (registry.indices category).max? with
  | none => some 0
  | some largest => if largest = lastIndex then none else some (largest + 1)

/-- Gives out the next index of a category. -/
def next (registry : IndexRegistry) (category : String)
    : Except AllocationError (UInt32 × IndexRegistry) :=
  if category.isEmpty then .error .emptyCategory
  else
    match registry.following? category with
    | none => .error (.noNextIndex category)
    | some index => .ok (index, registry.insert category index)

/-- Records an explicit index. -/
def reserve (registry : IndexRegistry) (category : String) (index : UInt32)
    : Except AllocationError IndexRegistry :=
  if category.isEmpty then .error .emptyCategory
  else if registry.contains category index then .error (.indexTaken category index)
  else .ok (registry.insert category index)

end IndexRegistry

end GuestLaunch
