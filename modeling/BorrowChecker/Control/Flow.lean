import BorrowChecker.Body
import BorrowChecker.Control.Digraph

namespace BorrowChecker

/-!
The control-flow graph of a body.

Labels are positions in the code.  Only the entry and the ways from label to
label are kept; what the instructions do plays no part.  Each way is entered
into two graphs, in one as it goes and in the other backwards.  Neighbours are
listed in increasing order and without repetition, so a branch with equal arms
has one successor.
-/

/-- A control-flow graph: where control enters, where it may go from each label,
and where it may come from. -/
structure Flow where
  size : Nat
  entry : Nat
  onward : Digraph size
  back : Digraph size
  deriving Repr

namespace Flow

/-- All labels, reachable or not. -/
def labels (flow : Flow) : List Nat := List.range flow.size

def successors (flow : Flow) (label : Nat) : List Nat := flow.onward.neighbours label

def predecessors (flow : Flow) (label : Nat) : List Nat := flow.back.neighbours label

/-- The labels that can be reached from the entry, nearest first. -/
def discovery (flow : Flow) : List Nat := flow.onward.reached flow.entry

/-- The labels that can be reached from the entry, in increasing order. -/
def reachable (flow : Flow) : List Nat :=
  let found := flow.discovery
  flow.labels.filter fun label => found.contains label

/-- The labels of a body without the ways between them. -/
def unconnected (size entry : Nat) : Flow :=
  { size, entry, onward := .unconnected size, back := .unconnected size }

def connect (flow : Flow) (source target : Int) : Except Fault Flow := do
  let onward ← flow.onward.add source target
  let back ← flow.back.add target source
  return { flow with onward, back }

end Flow

namespace Body

def connectAt (body : Body) (flow : Flow) (label : Nat) : Except Fault Flow :=
  match body.instr? label with
  | none => .error .absent
  | some instr => instr.successors.foldlM (fun current next => current.connect label next) flow

/-- The control-flow graph of a body.  Valid bodies always have one. -/
def flow (body : Body) : Except Fault Flow := do
  let flow ← body.labels.foldlM body.connectAt (.unconnected body.code.length body.entry.toNat)
  if inRange body.code.length body.entry then return flow else .error .absent

end Body
end BorrowChecker
