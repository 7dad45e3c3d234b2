import BorrowChecker.Dataflow.Solver
import BorrowChecker.Region.Solution

namespace BorrowChecker

/-!
Loans and where they are active.

A loan is created by an instruction that borrows a place.  Its lifetime is the
outermost one in the type of the place that receives the borrow.  A loan is
active at a label if some way leads there from its creation on which its
lifetime stayed alive, the label itself included.
-/

/-- A borrow created by the instruction at a label. -/
structure Loan where
  label : Nat
  place : Place
  mutability : Mutability
  lifetime : Lifetime
  deriving DecidableEq, Repr, Inhabited

def Loan.text (loan : Loan) : String :=
  let keyword := match loan.mutability with
    | .unique => " mut "
    | .shared => " "
  "&" ++ loan.lifetime.text ++ keyword ++ loan.place.text ++ "@L" ++ toString loan.label

/-- The loans active before the instructions of reachable labels. -/
structure ActiveLoans where
  loans : List Loan
  bound : Nat
  states : States bound
  deriving Repr

namespace Body

/-- The loan created at a label.  A place that receives a borrow has to have a
borrow type. -/
def loanAt (body : Body) (label : Nat) : Except Fault (Option Loan) :=
  match body.instr? label with
  | some (.assign target (.borrow mutability place) _) => do
      match ← body.typeOf target with
      | .borrow lifetime _ _ => return some { label, place, mutability, lifetime }
      | other => .error (.borrowIntoNonBorrow target other)
  | _ => .ok none

/-- The loan created at a label, if it can be determined. -/
def loanAt? (body : Body) (label : Nat) : Option Loan := (body.loanAt label).toOption.join

/-- The loans a body creates, by increasing label. -/
def loans (body : Body) : List Loan := body.labels.filterMap body.loanAt?

def aliveLoans (loans : List Loan) (lifetimes : LifetimeSets) (label : Nat) : List Loan :=
  loans.filter fun loan => lifetimes.isAliveAt loan.lifetime label

/-- The loans active at each reachable label, apart from whether they are alive
there. -/
def activeLoans (body : Body) (flow : Flow) (lifetimes : LifetimeSets) : ActiveLoans :=
  let loans := body.loans
  let bound := body.code.length
  let survivors := body.labels.map fun label =>
    IndexSet.ofList bound ((aliveLoans loans lifetimes label).map Loan.label)
  let created := body.labels.map fun label =>
    IndexSet.ofList bound ((body.loanAt? label).toList.map Loan.label)
  let transfer (label : Nat) (set : IndexSet bound) : IndexSet bound :=
    (set.inter (survivors[label]?.getD IndexSet.empty)).union
      (created[label]?.getD IndexSet.empty)
  { loans, bound, states := flow.solveForward IndexSet.empty transfer }

/-- The same for a body whose loans are yet to be determined, in the order in
which control first reaches the labels. -/
def trackLoans (body : Body) (flow : Flow) (lifetimes : LifetimeSets) :
    Except Fault ActiveLoans := do
  let _ ← flow.discovery.mapM body.loanAt
  return body.activeLoans flow lifetimes

end Body

namespace ActiveLoans

/-- The loans active at a label, by increasing label of creation. -/
def activeAt (active : ActiveLoans) (lifetimes : LifetimeSets) (label : Nat) : List Loan :=
  match active.states.at? label with
  | none => []
  | some set =>
      active.loans.filter fun loan =>
        set.contains loan.label && lifetimes.isAliveAt loan.lifetime label

end ActiveLoans
end BorrowChecker
