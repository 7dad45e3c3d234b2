import BorrowChecker.Control.Digraph
import BorrowChecker.Rules.Complaint
import BorrowChecker.Table

namespace BorrowChecker

/-!
The signature rule: a generic lifetime that has to be alive at the caller point
of another one is declared to outlive it.

What is declared is closed under chains by a search over the positions of the
generics.  A generic that is listed more than once stands for its last position:
declared pairs connect last positions, and what is found from the last one
replaces what was found before.
-/

namespace Body

/-- The declared pairs as arcs between positions of generics.  Pairs that mention
another lifetime are left out. -/
def declaredArcs (body : Body) : List (Nat × Nat) :=
  let positions := Table.positions body.generics
  body.outlives.filterMap fun demand =>
    match positions.get? demand.long, positions.get? demand.short with
    | some source, some target => some (source, target)
    | _, _ => none

/-- The generics that the declared pairs lead to from a position, each once. -/
def declaredFrom (body : Body) (declared : Digraph body.generics.length) (position : Nat) :
    Except Fault (List Lifetime) := do
  return (← (declared.reached position).mapM fun (target : Nat) =>
    requireAt body.generics target).eraseDups

/-- For each generic the generics that the signature declares it to outlive,
directly or through other generics, itself included. -/
def declaredOutlives (body : Body) : Except Fault (Table Lifetime (List Lifetime)) := do
  let declared ← Digraph.ofArcs body.generics.length body.declaredArcs
  body.generics.zipIdx.foldlM
    (fun closure entry => return closure.insert entry.1 (← body.declaredFrom declared entry.2)) {}

/-- A point where a generic lifetime is alive is accounted for by the declared
ones. -/
def checkPoint (body : Body) (generic : Lifetime) (declared : List Lifetime) : Point → Scan Unit
  | .label _ => .ok ()
  | .caller other =>
      Scan.objectIf (!declared.contains other) body.loc
        (.missingOutlives generic other (declared.mergeSort Lifetime.precedes))

def checkSignature (body : Body) (lifetimes : LifetimeSets) : Scan Unit := do
  let closure ← Scan.ask body.declaredOutlives
  body.generics.forM fun generic => do
    let declared := (closure.get? generic).getD []
    (← Scan.ask (lifetimes.points generic)).forM (body.checkPoint generic declared)

end Body
end BorrowChecker
