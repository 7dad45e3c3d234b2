import BorrowChecker.Lifetime

namespace BorrowChecker

/-!
Types of the intermediate language.

Types arrive fully elaborated; only the lifetimes inside them are inferred.  A
front end may leave a type out, and `Ty.missing` stands for the gap so that
incomplete bodies can be described and then rejected.  A type is a chain of
borrows that ends in one type that is not a borrow, which is why most
functions here recurse along a single spine.
-/

/-- Whether a borrow permits writing through it. -/
inductive Mutability where
  | shared
  | unique
  deriving DecidableEq, Repr, Inhabited

/-- The word used for a mutability in messages. -/
def Mutability.text : Mutability → String
  | .shared => "shared"
  | .unique => "mut"

/-- The type language.  A structure type carries its lifetime arguments. -/
inductive Ty where
  | unit
  | int
  | bool
  | struct (name : String) (arguments : List Lifetime)
  | borrow (lifetime : Lifetime) (mutability : Mutability) (target : Ty)
  | missing
  deriving DecidableEq, Repr, Inhabited

namespace Ty

def structText (name : String) : List Lifetime → String
  | [] => name
  | arguments => name ++ "<" ++ ", ".intercalate (arguments.map Lifetime.text) ++ ">"

def text : Ty → String
  | unit => "()"
  | int => "i32"
  | bool => "bool"
  | struct name arguments => structText name arguments
  | borrow lifetime .shared target => "&" ++ lifetime.text ++ " " ++ target.text
  | borrow lifetime .unique target => "&" ++ lifetime.text ++ " mut " ++ target.text
  | missing => "<nil>"

/-- The name of the form of a type, as diagnostics about ill-typed bodies show
it. -/
def formName : Ty → String
  | unit => "mir.UnitType"
  | int => "mir.IntType"
  | bool => "mir.BoolType"
  | struct _ _ => "mir.StructType"
  | borrow _ _ _ => "mir.BorrowType"
  | missing => "<nil>"

/-- All lifetime occurrences from left to right, repetitions included. -/
def lifetimes : Ty → List Lifetime
  | borrow lifetime _ target => lifetime :: target.lifetimes
  | struct _ arguments => arguments
  | _ => []

/-- The lifetimes of a type in order of first occurrence. -/
def freeLifetimes (type : Ty) : List Lifetime := type.lifetimes.eraseDups

def rename (change : Lifetime → Lifetime) : Ty → Ty
  | borrow lifetime mutability target =>
      borrow (change lifetime) mutability (target.rename change)
  | struct name arguments => struct name (arguments.map change)
  | type => type

/-- The structure a chain of borrows ends in, if it ends in one. -/
def leaf? : Ty → Option (String × List Lifetime)
  | borrow _ _ target => target.leaf?
  | struct name arguments => some (name, arguments)
  | _ => none

/-- The demands a chain of borrows makes by itself: whatever lies behind a
borrow outlives it.  What the structure at the end demands is not included. -/
def chainDemands : Ty → List Outlives
  | borrow lifetime _ target =>
      target.freeLifetimes.map (fun inner => { long := inner, short := lifetime }) ++
        target.chainDemands
  | _ => []

/-- The highest inference number in a type, or zero if there is no positive
one. -/
def highestNumber (type : Ty) : Int :=
  type.lifetimes.foldl (fun highest lifetime => max highest lifetime.number) 0

/-- Renaming acts on the list of occurrences. -/
@[simp] theorem lifetimes_rename (change : Lifetime → Lifetime) (type : Ty) :
    (type.rename change).lifetimes = type.lifetimes.map change := by
  induction type with
  | borrow lifetime mutability target inductionHypothesis =>
      simp [rename, lifetimes, inductionHypothesis]
  | _ => rfl

/-- The free lifetimes are exactly those that occur. -/
theorem mem_freeLifetimes (lifetime : Lifetime) (type : Ty) :
    lifetime ∈ type.freeLifetimes ↔ lifetime ∈ type.lifetimes := by
  simp [freeLifetimes, List.mem_eraseDups]

end Ty
end BorrowChecker
