import BorrowChecker.Rules.Complaint

namespace BorrowChecker

/-!
The aliasing rule: no action conflicts with an active loan.

A mutable loan conflicts with every use of an overlapping place, a shared one
only with moves.  Writing a place conflicts with loans of what contains it and
of what is stored in it.  Storage that disappears must not be on loan.
-/

namespace Body

def checkUse (body : Body) (loc : Loc) (active : List Loan) (place : Place) : Scan Unit := do
  let copyable ← Scan.ask (body.isCopyable place)
  Scan.objectIf (!copyable && place.hasDeref) loc (.moveOutOfBorrow place)
  Scan.objectToLoan active
    (fun loan => place.overlaps loan.place && (loan.mutability == .unique || !copyable))
    loc (.useWhileBorrowed place)

def checkBorrow (loc : Loc) (active : List Loan) (mutability : Mutability) (place : Place) :
    Scan Unit :=
  Scan.objectToLoan active
    (fun loan => place.overlaps loan.place &&
      (loan.mutability == .unique || mutability == .unique))
    loc (.borrowConflict place mutability)

/-- Whether writing a place disturbs a loan. -/
def writeDisturbs (target : Place) (loan : Loan) : Bool :=
  target.isWithin loan.place || loan.place.isStoredIn target

/-- Whether a loan points into the storage of a local. -/
def pointsInto (position : Int) (loan : Loan) : Bool :=
  loan.place.isStoredIn (.ofLocal position)

/-- The aliasing rule for one instruction, given the active loans. -/
def checkActive (body : Body) (loc : Loc) (active : List Loan) : Instr → Scan Unit
  | .assign target (.borrow mutability place) _ => do
      checkBorrow loc active mutability place
      Scan.objectToLoan active (writeDisturbs target) loc (.assignBorrowed target)
  | .assign target source _ => do
      source.operands.forM (body.checkUse loc active)
      Scan.objectToLoan active (writeDisturbs target) loc (.assignBorrowed target)
  | .call _ arguments target _ => do
      (arguments.map Place.ofLocal).forM (body.checkUse loc active)
      Scan.objectToLoan active (writeDisturbs target) loc (.callDestBorrowed target)
  | .branch condition _ _ => body.checkUse loc active (.ofLocal condition)
  | .deinit victim _ =>
      Scan.objectToLoan active (pointsInto victim) loc (.deinitBorrowed victim)
  | .ret => do
      body.parameters.forM fun (parameter : Nat) =>
        Scan.objectToLoan active (pointsInto parameter) loc (.returnBorrowedParam parameter)
      body.checkUse loc active (.ofLocal (← Scan.ask body.returnLocal : Nat))
  | .goto _ => .ok ()

def checkAliasingAt (body : Body) (lifetimes : LifetimeSets) (loans : ActiveLoans) (label : Nat)
    (loc : Loc) (instr : Instr) : Scan Unit :=
  body.checkActive loc (loans.activeAt lifetimes label) instr

def checkAliasing (body : Body) (reachable : List Nat) (lifetimes : LifetimeSets)
    (loans : ActiveLoans) : Scan Unit :=
  body.scan reachable (body.checkAliasingAt lifetimes loans)

end Body
end BorrowChecker
