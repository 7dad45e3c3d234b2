import BorrowChecker.Body
import BorrowChecker.Region.Matching
import BorrowChecker.Unfolding

namespace BorrowChecker

/-!
The outlives demands of a body.

Demands come from the types of the locals, which have to be well formed, and
from the instructions: an assignment equates the lifetimes of both sides, a
borrow is outlived by everything it is reached through, and a call instantiates
the signature of its function.  Unreachable instructions make demands as well.
-/

/-- The graph built so far, and the lifetimes that are still unused. -/
structure Collected where
  graph : OutlivesGraph := .empty
  supply : FreshSupply
  deriving Repr

namespace Collected

def unify (collected : Collected) (left right : Ty) : Except Fault Collected := do
  return { collected with graph := ← collected.graph.unified left right }

def require (collected : Collected) (demands : List Outlives) : Collected :=
  { collected with graph := collected.graph.addAll demands }

end Collected

namespace Body

/-- Equate each type with the type of the local in its position. -/
def unifyArguments (body : Body) (collected : Collected) :
    List (Ty × Int) → Except Fault Collected
  | [] => .ok collected
  | (type, argument) :: rest => do
      let collected ← collected.unify type (← body.localType argument)
      body.unifyArguments collected rest

/-- Equate the types of positions with those of the locals given for them.  There
have to be as many locals as positions. -/
def unifyPositions (body : Body) (collected : Collected) (types : List Ty) (arguments : List Int)
    (mismatch : Fault) : Except Fault Collected :=
  if types.length = arguments.length then body.unifyArguments collected (types.zip arguments)
  else .error mismatch

/-- The demands of borrowing a place into a target: the borrow points to the
place, and all that the place is reached through outlives it. -/
def borrowDemands (body : Body) (collected : Collected) (target place : Place) :
    Except Fault Collected := do
  match ← body.typeOf target with
  | .borrow lifetime _ pointee =>
      let collected ← collected.unify pointee (← body.typeOf place)
      let route := (← body.localType place.root).freeLifetimes
      return collected.require (route.map fun long => { long, short := lifetime })
  | other => .error (.borrowIntoNonBorrow target other)

def instrDemands (body : Body) (program : Program) (collected : Collected) :
    Instr → Except Fault Collected
  | .assign target (.use place) _ => do
      collected.unify (← body.typeOf target) (← body.typeOf place)
  | .assign target (.borrow _ place) _ => body.borrowDemands collected target place
  | .assign target (.make name arguments) _ => do
      let (type, fields, supply) ← program.instantiateStruct collected.supply name
      let collected ← body.unifyPositions { collected with supply } fields arguments
        (.fieldCount fields arguments)
      collected.unify (← body.typeOf target) type
  | .assign _ .missing _ => .error .missingSource
  | .call name arguments target _ => do
      let (signature, supply) := (← program.function name).instantiate collected.supply
      let implied ← (signature.parameters ++ [signature.result]).mapM program.impliedOutlives
      let collected := Collected.require { collected with supply }
        (signature.outlives ++ implied.flatten)
      let collected ← body.unifyPositions collected signature.parameters arguments
        (.argumentCount signature.parameters arguments)
      collected.unify signature.result (← body.typeOf target)
  | .assign _ (.const _) _ | .assign _ .unit _ | .assign _ (.unary _ _) _
  | .assign _ (.binary _ _ _) _ | .deinit _ _ | .goto _ | .branch _ _ _ | .ret => .ok collected

/-- Mention the lifetimes of a local's type and record the demands the type
makes. -/
def localDemands (program : Program) (graph : OutlivesGraph) (entry : Local) :
    Except Fault OutlivesGraph := do
  let mentioned := entry.type.freeLifetimes.foldl OutlivesGraph.register graph
  return mentioned.addAll (← program.impliedOutlives entry.type)

def stmtDemands (body : Body) (program : Program) (collected : Collected) (stmt : Stmt) :
    Except Fault Collected :=
  match stmt.instr with
  | some instr => body.instrDemands program collected instr
  | none => .error .absent

/-- All demands of a body, collected with lifetimes from the given supply. -/
def collectDemands (body : Body) (supply : FreshSupply) : Except Fault Collected := do
  let program ← body.requireProgram
  let generics := body.generics.foldl OutlivesGraph.register OutlivesGraph.empty
  let graph ← body.locals.foldlM (localDemands program) generics
  body.code.foldlM (body.stmtDemands program) { graph, supply }

/-- The outlives graph of a body.  Inference lifetimes are numbered after those
the body mentions. -/
def outlivesGraph (body : Body) : Except Fault OutlivesGraph := do
  return (← body.collectDemands { last := body.highestNumber }).graph

end Body
end BorrowChecker
