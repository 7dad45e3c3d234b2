import BorrowChecker.Dataflow.Solver

namespace BorrowChecker

/-!
Dataflow problems over sets of integers, given by what each label removes and
adds.  The integers that can ever occur are those of the boundary and those that
some label adds; numbering them in increasing order makes the problem finite.
-/

/-- The way information flows. -/
inductive Direction where
  | forward
  | backward
  deriving DecidableEq, Repr, Inhabited

/-- A problem whose transfer function removes `kill` and then adds `gen`. -/
structure GenKill where
  boundary : List Int
  gen : Nat → List Int
  kill : Nat → List Int

namespace GenKill

/-- The integers that can occur, in increasing order. -/
def occurring (problem : GenKill) (labels : List Nat) : List Int :=
  (problem.boundary ++ labels.flatMap problem.gen).eraseDups.mergeSort
    fun left right => decide (left ≤ right)

/-- The numbers of the given integers. -/
def encode (values : List Int) (members : List Int) : IndexSet values.length :=
  IndexSet.ofList values.length (members.map fun member => values.idxOf member)

/-- The integers of a set of numbers. -/
def decode (values : List Int) (set : IndexSet values.length) : List Int :=
  set.toList.filterMap fun index => values[index]?

/-- The set of integers before the instruction of each reachable label. -/
def solve (problem : GenKill) (direction : Direction) (flow : Flow) :
    List (Option (List Int)) :=
  let values := problem.occurring flow.labels
  let transfer (label : Nat) (set : IndexSet values.length) : IndexSet values.length :=
    (set.diff (encode values (problem.kill label))).union (encode values (problem.gen label))
  let states := match direction with
    | .forward => flow.solveForward (encode values problem.boundary) transfer
    | .backward => flow.solveBackward (encode values problem.boundary) transfer
  states.map (Option.map (decode values))

end GenKill
end BorrowChecker
