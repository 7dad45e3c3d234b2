import BorrowChecker.Place
import BorrowChecker.Ty

namespace BorrowChecker

/-!
Faults: the ways in which a request can turn out to be meaningless.

A fault is not a verdict on a body.  It says that a question has no answer, be
it a projection that does not fit its type, a name that is not declared, or a
position outside a list.  Well-typed bodies cause none of them.
-/

/-- The cause for which a question has no answer. -/
inductive Fault where
  /-- A position outside a list, or a part that is absent. -/
  | absent
  | unknownStruct (name : String)
  | unknownFunction (name : String)
  /-- A structure is given the wrong number of lifetime arguments. -/
  | lifetimeArity (name : String) (parameters arguments : List Lifetime)
  | derefOfNonBorrow (type : Ty) (place : Place)
  | fieldOfNonStruct (type : Ty) (place : Place)
  | fieldOutOfRange (index : Int) (type : Ty) (place : Place)
  /-- A type that is left out has neither copy nor move semantics. -/
  | unexpectedType (type : Ty)
  | mismatch (left right : Ty)
  /-- Two instances of one structure have different numbers of arguments. -/
  | argumentMismatch (left right : List Lifetime)
  /-- A structure is made from the wrong number of values. -/
  | fieldCount (fields : List Ty) (values : List Int)
  /-- A function is called with the wrong number of arguments. -/
  | argumentCount (parameters : List Ty) (arguments : List Int)
  /-- A type that is left out is equal to no type. -/
  | notComparable (type : Ty)
  | borrowIntoNonBorrow (place : Place) (type : Ty)
  /-- An assignment has no right-hand side. -/
  | missingSource
  | notGeneric (lifetime : Lifetime)
  | noReturnLocal (body : String)
  | emptyQueue
  /-- A jump leaves the code. -/
  | strayLabel (label : Int)
  deriving DecidableEq, Repr, Inhabited

namespace Fault

/-- A list with its length. -/
def counted (members : List String) : String :=
  bracketed members ++ " (" ++ toString members.length ++ ")"

/-- Two lists of different lengths. -/
def lengths (left right : List String) : String := counted left ++ " != " ++ counted right

/-- The wording of a fault.  Absent positions have no wording of their own. -/
def message : Fault → String
  | absent => ""
  | unknownStruct name => "unknown struct " ++ name
  | unknownFunction name => "unknown function " ++ name
  | lifetimeArity name parameters arguments =>
      "wrong number of lifetime arguments for " ++ name ++ ": " ++
        lengths (parameters.map Lifetime.text) (arguments.map Lifetime.text)
  | derefOfNonBorrow type place =>
      "dereference of non-borrow type " ++ type.text ++ " in " ++ place.text
  | fieldOfNonStruct type place =>
      "field projection on non-struct type " ++ type.text ++ " in " ++ place.text
  | fieldOutOfRange index type place =>
      "field " ++ toString index ++ " out of range for " ++ type.text ++ " in " ++ place.text
  | unexpectedType type => "unexpected type " ++ type.formName
  | mismatch left right =>
      "unable to unify types " ++ left.text ++ " (" ++ left.formName ++ ") and " ++
        right.text ++ " (" ++ right.formName ++ ")"
  | argumentMismatch left right =>
      "Number of lifetime arguments don't match: " ++
        lengths (left.map Lifetime.text) (right.map Lifetime.text)
  | fieldCount fields values =>
      "Number of struct fields don't match: " ++
        lengths (fields.map Ty.text) (values.map toString)
  | argumentCount parameters arguments =>
      "Argument lengths don't match: " ++
        lengths (parameters.map Ty.text) (arguments.map toString)
  | notComparable type => "Unification of " ++ type.formName ++ " not implemented"
  | borrowIntoNonBorrow place type =>
      "borrow assigned to " ++ place.text ++ " of non-borrow type " ++ type.text
  | missingSource => "Unhandled rvalue: <nil> <nil>"
  | notGeneric lifetime => lifetime.text ++ " is not a generic lifetime"
  | noReturnLocal body => body ++ " has no return local"
  | emptyQueue => "Queue is empty"
  | strayLabel label => "vertex out of range: " ++ toString label

end Fault

/-- Whether a signed number is a position in a list of the given length. -/
def inRange (length : Nat) (position : Int) : Bool :=
  decide (0 ≤ position) && decide (position < (length : Int))

/-- The member of a list at a signed position. -/
def memberAt {α : Type} (members : List α) (position : Int) : Option α :=
  if position < 0 then none else members[position.toNat]?

/-- The member at a signed position, or a fault where there is none. -/
def requireAt {α : Type} (members : List α) (position : Int) : Except Fault α :=
  match memberAt members position with
  | some member => .ok member
  | none => .error .absent

theorem inRange_iff (length : Nat) (position : Int) :
    inRange length position = true ↔ ∃ index : Nat, position = index ∧ index < length := by
  simp only [inRange, Bool.and_eq_true, decide_eq_true_eq]
  constructor
  · rintro ⟨nonnegative, below⟩
    exact ⟨position.toNat, by omega, by omega⟩
  · rintro ⟨index, rfl, below⟩
    omega

theorem memberAt_natCast {α : Type} (members : List α) (index : Nat) :
    memberAt members index = members[index]? := by
  have nonnegative : ¬ (index : Int) < 0 := by omega
  simp [memberAt, nonnegative]

theorem memberAt_map {α β : Type} (change : α → β) (members : List α) (position : Int) :
    memberAt (members.map change) position = (memberAt members position).map change := by
  unfold memberAt
  split <;> simp

theorem mem_of_memberAt {α : Type} {members : List α} {position : Int} {member : α}
    (there : memberAt members position = some member) : member ∈ members := by
  unfold memberAt at there
  split at there
  · simp at there
  · exact List.mem_of_getElem? there

theorem exists_natCast_of_memberAt {α : Type} {members : List α} {position : Int} {member : α}
    (there : memberAt members position = some member) :
    ∃ index < members.length, position = (index : Nat) := by
  unfold memberAt at there
  split at there
  · simp at there
  · exact ⟨position.toNat, (List.getElem?_eq_some_iff.mp there).1, by omega⟩

theorem requireAt_eq_ok {α : Type} {members : List α} {position : Int} {member : α} :
    requireAt members position = .ok member ↔ memberAt members position = some member := by
  unfold requireAt
  cases memberAt members position <;> simp

theorem requireAt_natCast {α : Type} {members : List α} {index : Nat} {member : α} :
    requireAt members (index : Int) = .ok member ↔ members[index]? = some member := by
  rw [requireAt_eq_ok, memberAt_natCast]

theorem exists_requireAt {α : Type} {members : List α} {index : Nat}
    (below : index < members.length) :
    ∃ member, requireAt members (index : Int) = .ok member :=
  ⟨_, requireAt_natCast.mpr (List.getElem?_eq_getElem below)⟩

end BorrowChecker
