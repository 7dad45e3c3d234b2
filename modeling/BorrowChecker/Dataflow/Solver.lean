import BorrowChecker.Control.Flow
import BorrowChecker.Dataflow.Propagation

namespace BorrowChecker

/-!
Dataflow problems on a control-flow graph, in both directions.

A solution gives every reachable label the set that holds immediately before
its instruction, and unreachable labels nothing.  Going forward, what an
instruction makes of its set is passed on to its successors.  Going backward,
the set after an instruction is the union of the sets before its successors, and
the transfer function turns it into the set before the instruction.
-/

/-- The sets before the instructions of reachable labels. -/
abbrev States (bound : Nat) := Arrivals bound

/-- The set before the instruction at a signed label; a fault if there is no such
label. -/
def States.before {bound : Nat} (states : States bound) (label : Int) :
    Except Fault (Option (IndexSet bound)) :=
  requireAt states label

namespace Flow

variable {bound : Nat}

/-- Solve a problem along control flow, starting with `boundary` at the entry. -/
def solveForward (flow : Flow) (boundary : IndexSet bound)
    (transfer : Nat → IndexSet bound → IndexSet bound) : States bound :=
  Propagation.run { targets := flow.successors, transfer }
    { arrivals := flow.labels.map fun label => if label = flow.entry then some boundary else none
      work := Worklist.empty.push flow.entry }

/-- What is known after the instructions of reachable labels before anything is
propagated: `boundary` where control ends, and nothing elsewhere. -/
def backwardStart (flow : Flow) (reached : List Nat) (boundary : IndexSet bound) :
    Arrivals bound :=
  flow.labels.map fun label =>
    if reached.contains label then
      some (if (flow.successors label).isEmpty then boundary else IndexSet.empty)
    else none

/-- Solve a problem against control flow, starting with `boundary` after every
instruction without successors. -/
def solveBackward (flow : Flow) (boundary : IndexSet bound)
    (transfer : Nat → IndexSet bound → IndexSet bound) : States bound :=
  let reached := flow.reachable
  let after := Propagation.run
    { targets := fun label => (flow.predecessors label).filter fun source =>
        reached.contains source
      transfer }
    { arrivals := flow.backwardStart reached boundary
      work := .ofList reached.reverse }
  flow.labels.map fun label => (after.at? label).map (transfer label)

end Flow
end BorrowChecker
