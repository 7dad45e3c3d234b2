import BorrowChecker.Dataflow.Solver
import BorrowChecker.Region.Solution

namespace BorrowChecker

/-!
Live locals.

A local is live at a label if its value may still be read on some way from
there.  An instruction reads the locals its operands are rooted at; writing
through a pointer reads the pointer, and returning reads the result.  Writing a
whole local, or ending its storage, discards the value it had.
-/

namespace Instr

/-- The locals whose value an instruction discards. -/
def defs : Instr → List Int
  | deinit victim _ => [victim]
  | instr => (instr.target?.filter Place.isLocal).toList.map Place.root

/-- The locals whose value an instruction reads.  `result` is the local that a
return reads. -/
def uses (result : Option Int) (instr : Instr) : List Int :=
  let pointers := (instr.target?.filter Place.hasDeref).toList
  (instr.operands ++ pointers).map Place.root ++ if instr = ret then result.toList else []

end Instr

/-- The locals live before the instructions of reachable labels. -/
structure Liveness where
  locals : Nat
  states : States locals
  deriving Repr

namespace Liveness

def liveAt (liveness : Liveness) (label : Nat) : List Nat :=
  ((liveness.states.at? label).map IndexSet.toList).getD []

def query (liveness : Liveness) (label : Int) : Except Fault (List Nat) := do
  return ((← liveness.states.before label).map IndexSet.toList).getD []

def isLive (liveness : Liveness) (label : Int) (position : Int) : Except Fault Bool := do
  return (← liveness.states.before label).any fun set =>
    decide (0 ≤ position) && set.contains position.toNat

end Liveness

namespace Body

def defsUses (body : Body) (instr : Instr) : Except Fault (List Int × List Int) :=
  match instr with
  | .ret => return (instr.defs, instr.uses (some (← body.returnLocal : Nat)))
  | _ => .ok (instr.defs, instr.uses none)

/-- The locals that the instruction at a label discards and those it reads. -/
def defsUsesAt (body : Body) (label : Nat) : Except Fault (List Int × List Int) :=
  match body.instr? label with
  | some instr => body.defsUses instr
  | none => .error .absent

/-- The locals live before an instruction, from those live after it. -/
def liveBefore (body : Body) (label : Nat) (after : IndexSet body.locals.length) :
    IndexSet body.locals.length :=
  match body.defsUsesAt label with
  | .error _ => after
  | .ok (defs, uses) =>
      let positions (locals : List Int) := IndexSet.ofList body.locals.length (locals.map Int.toNat)
      (after.diff (positions defs)).union (positions uses)

def liveness (body : Body) (flow : Flow) : Liveness :=
  { locals := body.locals.length
    states := flow.solveBackward IndexSet.empty body.liveBefore }

/-- The live locals of a body whose instructions are yet to be looked at, from
the last reachable one backwards. -/
def liveLocals (body : Body) (flow : Flow) : Except Fault Liveness := do
  let _ ← flow.reachable.reverse.mapM body.defsUsesAt
  return body.liveness flow

/-- What is required of a generic lifetime: to be alive at its own caller point
and in the whole body. -/
def requirementsOfGeneric (body : Body) (generic : Lifetime) :
    Except Fault (List (Lifetime × Int)) := do
  let caller ← body.pointSpace.index (.caller generic)
  return (caller :: body.labels.map Int.ofNat).map fun index => (generic, index)

/-- What a local requires where it is live: every lifetime in its type is alive
there. -/
def requirementsOfLocal (body : Body) (label position : Nat) :
    Except Fault (List (Lifetime × Int)) := do
  let entry ← requireAt body.locals position
  return entry.type.freeLifetimes.map fun lifetime => (lifetime, (label : Int))

/-- The points at which the lifetimes of a body have to be alive regardless of
the outlives graph. -/
def requirements (body : Body) (liveness : Liveness) : Except Fault Requirements := do
  let ofGenerics ← body.generics.mapM body.requirementsOfGeneric
  let ofLocals ← body.labels.mapM fun label =>
    (liveness.liveAt label).mapM (body.requirementsOfLocal label)
  return Requirements.ofList (ofGenerics.flatten ++ ofLocals.flatten.flatten)

end Body
end BorrowChecker
