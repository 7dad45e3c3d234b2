import BorrowChecker.Body
import BorrowChecker.Table

namespace BorrowChecker

/-!
Program points at which lifetimes may be alive.

A point is a label of the body, or the point in the caller where the region of
a generic lifetime ends.  Points are numbered: a label by itself, and the caller
points after all labels in the order of the generics.
-/

/-- A program point. -/
inductive Point where
  | label (label : Int)
  | caller (generic : Lifetime)
  deriving DecidableEq, Repr, Inhabited

def Point.text : Point → String
  | label position => "L" ++ toString position
  | caller generic => "caller(" ++ generic.text ++ ")"

/-- How many labels there are before the caller points, and what generics those
belong to. -/
structure PointSpace where
  labels : Int
  generics : List Lifetime
  deriving DecidableEq, Repr, Inhabited

namespace PointSpace

/-- The last position of a lifetime among the generics. -/
def genericIndex? (space : PointSpace) (lifetime : Lifetime) : Option Nat :=
  (Table.positions space.generics).get? lifetime

/-- The number of the caller point of a generic lifetime. -/
def callerIndex? (space : PointSpace) (lifetime : Lifetime) : Option Int :=
  (space.genericIndex? lifetime).map fun position => space.labels + position

/-- The number of a point.  Labels are not checked. -/
def index (space : PointSpace) : Point → Except Fault Int
  | .label label => .ok label
  | .caller generic =>
      match space.callerIndex? generic with
      | some position => .ok position
      | none => .error (.notGeneric generic)

def point (space : PointSpace) (index : Int) : Except Fault Point :=
  if index < space.labels then .ok (.label index)
  else return .caller (← requireAt space.generics (index - space.labels))

end PointSpace

def Body.pointSpace (body : Body) : PointSpace :=
  { labels := body.code.length, generics := body.generics }

end BorrowChecker
