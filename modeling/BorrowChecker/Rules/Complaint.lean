import BorrowChecker.Diagnostic
import BorrowChecker.Loan

namespace BorrowChecker

/-!
Complaints: what a rule found, before it is put into words.

A rule scans the reachable instructions and stops at the first one it objects
to.  It also stops where a question it asks has no answer; such a fault is not a
complaint.
-/

/-- What is wrong with an instruction or a signature. -/
inductive Complaint where
  | useOfUninit (place : Place)
  | writeIntoUninit (target owner : Place)
  | writeThroughUninit (target pointer : Place)
  | mutBorrowOfShared (place : Place)
  | sharedWrite (target : Place)
  | missingOutlives (long short : Lifetime) (declared : List Lifetime)
  | moveOutOfBorrow (place : Place)
  | useWhileBorrowed (place : Place) (loan : Loan)
  | borrowConflict (place : Place) (mutability : Mutability) (loan : Loan)
  | assignBorrowed (target : Place) (loan : Loan)
  | callDestBorrowed (target : Place) (loan : Loan)
  | deinitBorrowed (victim : Int) (loan : Loan)
  | returnBorrowedParam (parameter : Int) (loan : Loan)
  deriving DecidableEq, Repr

/-- Why a scan stops. -/
inductive Stop where
  | fault (fault : Fault)
  | complaint (loc : Loc) (complaint : Complaint)
  deriving DecidableEq, Repr

/-- A scan that may stop early. -/
abbrev Scan (α : Type) := Except Stop α

namespace Scan

/-- Ask a question whose answer may not exist. -/
def ask {α : Type} : Except Fault α → Scan α
  | .ok answer => .ok answer
  | .error fault => .error (.fault fault)

def objectIf (condition : Bool) (loc : Loc) (complaint : Complaint) : Scan Unit :=
  if condition then .error (.complaint loc complaint) else .ok ()

/-- Object to the first loan that satisfies a condition. -/
def objectToLoan (loans : List Loan) (condition : Loan → Bool) (loc : Loc)
    (complaint : Loan → Complaint) : Scan Unit :=
  match loans.find? condition with
  | some loan => .error (.complaint loc (complaint loan))
  | none => .ok ()

end Scan

namespace Complaint

def kind : Complaint → Kind
  | useOfUninit _ => .uninitUse
  | writeIntoUninit _ _ => .uninitWrite
  | writeThroughUninit _ _ => .uninitWrite
  | mutBorrowOfShared _ => .mutBorrowOfShared
  | sharedWrite _ => .sharedWrite
  | missingOutlives _ _ _ => .missingOutlives
  | moveOutOfBorrow _ => .moveOutOfBorrow
  | useWhileBorrowed _ _ => .useWhileBorrowed
  | borrowConflict _ _ _ => .borrowConflict
  | assignBorrowed _ _ => .assignBorrowed
  | callDestBorrowed _ _ => .callDestBorrowed
  | deinitBorrowed _ _ => .deinitBorrowed
  | returnBorrowedParam _ _ => .returnBorrowedParam

end Complaint

namespace Body

def scan (body : Body) (labels : List Nat) (rule : Nat → Loc → Instr → Scan Unit) : Scan Unit :=
  labels.forM fun label =>
    match body.code[label]? with
    | some { instr := some instr, loc } => rule label loc instr
    | _ => .error (.fault .absent)

/-- A loan by what it borrows and where it was created. -/
def describeLoan (body : Body) (loan : Loan) : Except Fault String := do
  let place ← body.describe loan.place
  let stmt ← requireAt body.code loan.label
  return "the borrow of " ++ place ++ " at " ++ stmt.loc.text

def localName (body : Body) (position : Int) : Except Fault String :=
  return (← requireAt body.locals position).name

def word (body : Body) : Complaint → Except Fault String
  | .useOfUninit place =>
      return "use of " ++ (← body.describe place) ++ ", which is not fully initialized here"
  | .writeIntoUninit target owner =>
      return "cannot write to " ++ (← body.describe target) ++ ": " ++
        (← body.describe owner) ++ " is not initialized"
  | .writeThroughUninit target pointer =>
      return "cannot write to " ++ (← body.describe target) ++ ": " ++
        (← body.describe pointer) ++ " is not fully initialized"
  | .mutBorrowOfShared place =>
      return "cannot borrow " ++ (← body.describe place) ++
        " as mutable, as it is behind a shared borrow"
  | .sharedWrite target =>
      return "cannot write to " ++ (← body.describe target) ++ ", which is behind a shared borrow"
  | .missingOutlives long short declared =>
      return "lifetime " ++ long.text ++ " must outlive " ++ short.text ++ ", but " ++ body.name ++
        " only declares " ++ long.text ++ ": " ++ bracketed (declared.map Lifetime.text)
  | .moveOutOfBorrow place =>
      return "cannot move out of " ++ (← body.describe place) ++ ", which is behind a borrow"
  | .useWhileBorrowed place loan =>
      return "cannot use " ++ (← body.describe place) ++ " because it is borrowed by " ++
        (← body.describeLoan loan)
  | .borrowConflict place mutability loan =>
      return "cannot borrow " ++ (← body.describe place) ++ " as " ++ mutability.text ++
        " because it is also borrowed by " ++ (← body.describeLoan loan)
  | .assignBorrowed target loan =>
      return "cannot assign to " ++ (← body.describe target) ++ " because it is borrowed by " ++
        (← body.describeLoan loan)
  | .callDestBorrowed target loan =>
      return "cannot assign to " ++ (← body.describe target) ++ " because it is borrowed by " ++
        (← body.describeLoan loan)
  | .deinitBorrowed victim loan =>
      return "local " ++ (← body.localName victim) ++ " while it is still borrowed by " ++
        (← body.describeLoan loan)
  | .returnBorrowedParam parameter loan =>
      return "returning while parameter " ++ (← body.localName parameter) ++
        " while it is still borrowed by " ++ (← body.describeLoan loan)

end Body
end BorrowChecker
