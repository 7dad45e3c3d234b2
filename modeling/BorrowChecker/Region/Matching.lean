import BorrowChecker.Region.Graph

namespace BorrowChecker

/-!
Matching two types of the same shape.

Types have the same shape if they differ in nothing but lifetimes and the
mutability of borrows.  Matching walks both types together and pairs the
lifetimes at corresponding positions; it stops with a fault at the first place
where the shapes differ.  The pairs found before that place are kept.
-/

namespace Ty

/-- The lifetimes at corresponding positions of two types, up to the first
difference in shape, and that difference. -/
def matching : Ty → Ty → List (Lifetime × Lifetime) × Option Fault
  | borrow left _ target, borrow right _ target' =>
      let inner := matching target target'
      ((left, right) :: inner.1, inner.2)
  | borrow left mutability target, other =>
      ([], some (.mismatch (borrow left mutability target) other))
  | struct name arguments, struct name' arguments' =>
      if name ≠ name' then ([], some (.mismatch (struct name arguments) (struct name' arguments')))
      else if arguments.length ≠ arguments'.length then
        ([], some (.argumentMismatch arguments arguments'))
      else (arguments.zip arguments', none)
  | struct name arguments, other => ([], some (.mismatch (struct name arguments) other))
  | missing, _ => ([], some (.notComparable missing))
  | unit, unit => ([], none)
  | int, int => ([], none)
  | bool, bool => ([], none)
  | type, other => ([], some (.mismatch type other))

/-- Two types differ in nothing but lifetimes and mutability.  A type that is
left out has no shape. -/
def sameShape : Ty → Ty → Bool
  | borrow _ _ target, borrow _ _ target' => sameShape target target'
  | struct name arguments, struct name' arguments' =>
      name == name' && arguments.length == arguments'.length
  | unit, unit => true
  | int, int => true
  | bool, bool => true
  | _, _ => false

end Ty

namespace OutlivesGraph

def equateAll (graph : OutlivesGraph) (pairs : List (Lifetime × Lifetime)) : OutlivesGraph :=
  pairs.foldl (fun current pair => current.equate pair.1 pair.2) graph

/-- Equate the lifetimes of two types, with the difference in shape if there is
one.  The graph keeps what was recorded before the difference. -/
def unify (graph : OutlivesGraph) (left right : Ty) : OutlivesGraph × Option Fault :=
  let matched := left.matching right
  (graph.equateAll matched.1, matched.2)

/-- Equate the lifetimes of two types that have to have the same shape. -/
def unified (graph : OutlivesGraph) (left right : Ty) : Except Fault OutlivesGraph :=
  match graph.unify left right with
  | (extended, none) => .ok extended
  | (_, some fault) => .error fault

end OutlivesGraph
end BorrowChecker
