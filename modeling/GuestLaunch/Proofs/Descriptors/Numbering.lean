import GuestLaunch.Proofs.Resources.Answers
import GuestLaunch.Proofs.Resources.DeviceRequests

/-!
Numbering of inherited descriptors. The table grows by what each request inherits, and the
numbers that are granted for a list are the next ones of the child, which are read back from
what is rendered.
-/

namespace GuestLaunch
open Text

-----------------------------------------------------------------------------------------
-- Lists of numbers
-----------------------------------------------------------------------------------------

/-- Reads a list of numbers of 32 bits with colons between them. -/
def readNumbers? (text : String) : Option (List Nat) :=
  (text.toList.splitOn ':').mapM (Numeral.natural? 10 UInt32.size)

/-- A list of numbers that is rendered is read back, by splitting it at the colons. -/
theorem readNumbers?_intercalate {numbers : List Nat} (some : numbers ≠ [])
    (small : ∀ number ∈ numbers, number < UInt32.size)
    : readNumbers? (":".intercalate (numbers.map decimal)) = Option.some numbers := by
  have texts : (":".intercalate (numbers.map decimal)).toList
      = [':'].intercalate (numbers.map (Numeral.write 10)) := by
    rw [String.toList_intercalate, List.map_map]
    have digits : String.toList ∘ decimal = Numeral.write 10 := by
      funext number
      exact String.toList_ofList
    rw [digits]
    rfl
  have split : ([':'].intercalate (numbers.map (Numeral.write 10))).splitOn ':'
      = numbers.map (Numeral.write 10) := by
    refine List.splitOn_intercalate ':' ?_ (by simpa using some)
    intro digits member colon
    obtain ⟨number, _, rfl⟩ := List.mem_map.mp member
    cases Numeral.isDecimalDigit_of_mem_write colon
  have read : (numbers.map (Numeral.write 10)).mapM (Numeral.natural? 10 UInt32.size)
      = Option.some numbers := by
    clear some texts split
    induction numbers with
    | nil => rfl
    | cons number rest ih =>
        have head := Numeral.natural?_write (small number (by simp))
        have tail := ih fun other member => small other (by simp [member])
        simp [head, tail]
  rw [readNumbers?, texts, split, read]

-----------------------------------------------------------------------------------------
-- The table of descriptors
-----------------------------------------------------------------------------------------

/-- Every descriptor of the child has a number of 32 bits. -/
theorem childDescriptor_lt (position : Nat) : childDescriptor position < UInt32.size :=
  Nat.lt_of_le_of_lt (Nat.min_le_right _ _) (by decide)

/-- The numbers that the child sees for a part of the table. -/
def childNumbers (position count : Nat) : List Nat :=
  (List.range' position count).map childDescriptor

@[simp] theorem length_childNumbers (position count : Nat)
    : (childNumbers position count).length = count := by
  simp [childNumbers]

/-- The numbers of the child that are rendered for some descriptors are read back. -/
theorem readNumbers?_childNumbers {count : Nat} (some : count ≠ 0) (position : Nat)
    : readNumbers? (":".intercalate ((childNumbers position count).map decimal))
      = Option.some (childNumbers position count) := by
  refine readNumbers?_intercalate ?_ ?_
  · intro none
    have length := length_childNumbers position count
    rw [none] at length
    exact some length.symm
  · intro number member
    obtain ⟨own, _, rfl⟩ := List.mem_map.mp member
    exact childDescriptor_lt own

def Request.inherited : Request → List Int32
  | inherit _ descriptors => descriptors
  | _ => []

/-- What is granted appends the descriptors that are inherited to the table, by what the run
answers.
-/
theorem Request.descriptors_of_answer {request : Request} {state next : RunState}
    {grant : Grant} (h : request.answer state = .ok (grant, next))
    : next.descriptors = state.descriptors ++ request.inherited := by
  cases answered_of_ok h with
  | inherit => rfl
  | claim | place | reserve | number => exact (List.append_nil _).symm

def inheritedDescriptors (requests : List Request) : List Int32 :=
  requests.flatMap Request.inherited

theorem inheritedDescriptors_append (first second : List Request)
    : inheritedDescriptors (first ++ second)
      = inheritedDescriptors first ++ inheritedDescriptors second :=
  List.flatMap_append

theorem inheritedDescriptors_inheritRequests (key : String) (descriptors : List Int32)
    : inheritedDescriptors (inheritRequests key descriptors) = descriptors := by
  by_cases none : descriptors = []
  · rw [inheritRequests, if_pos none, none]
    rfl
  · rw [inheritRequests, if_neg none]
    exact List.append_nil _

namespace Granted
variable {state final : RunState} {requests : List Request} {grants : List Grant}

/-- A run appends the descriptors of its requests to the table, by induction on the run. -/
theorem descriptors_eq (h : Granted state requests grants final)
    : final.descriptors = state.descriptors ++ inheritedDescriptors requests := by
  induction h with
  | nil => exact (List.append_nil _).symm
  | cons first _ ih =>
      rw [ih, Request.descriptors_of_answer first, List.append_assoc]
      rfl

/-- The request for a list of descriptors is granted the next numbers of the child, and nothing
is granted for an empty list.
-/
theorem inherit_grants {key : String} {descriptors : List Int32}
    (h : Granted state (inheritRequests key descriptors) grants final)
    : grants
      = if descriptors = [] then []
        else [.children key (childNumbers state.descriptors.length descriptors.length)] := by
  by_cases none : descriptors = []
  · rw [inheritRequests, if_pos none] at h
    cases h
    rw [if_pos none]
  · rw [inheritRequests, if_neg none] at h
    cases h with
    | cons first later =>
        cases later
        cases Request.answered_of_ok first with
        | inherit =>
            rw [if_neg none]
            rfl

end Granted

end GuestLaunch
