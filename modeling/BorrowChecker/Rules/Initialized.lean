import BorrowChecker.Initialization.Uninitialized
import BorrowChecker.Rules.Complaint

namespace BorrowChecker

/-!
The initialization rule: what is read is fully initialized, and what is written
has an owner.
-/

namespace Body

/-- The structures a written place is a part of, innermost first, up to the
first pointer it lies behind. -/
def writtenOwners : List Place → List Place
  | place :: owner :: outer =>
      match place.path.getLast? with
      | some (.field _) => owner :: writtenOwners (owner :: outer)
      | _ => []
  | _ => []

/-- Owners of a written place have to exist: every structure whose field is
written is itself initialized, and a pointer that is written through is fully
initialized.  A field that was moved out may be written again. -/
def checkTarget (analysis : Uninitialized) (label : Nat) (loc : Loc) (target : Place) :
    Scan Unit := do
  (writtenOwners target.lineage).forM fun owner =>
    Scan.objectIf (analysis.isUninit label owner) loc (.writeIntoUninit target owner)
  target.derefBase?.toList.forM fun pointer =>
    Scan.objectIf (analysis.notFullyInit label pointer) loc (.writeThroughUninit target pointer)

/-- The places an instruction reads; returning reads the result. -/
def reads (body : Body) (instr : Instr) : List Place :=
  instr.operands ++ if instr = .ret then
    body.returnLocal?.toList.map fun (position : Nat) => Place.ofLocal position
  else []

def checkInitializedAt (body : Body) (analysis : Uninitialized) (label : Nat) (loc : Loc)
    (instr : Instr) : Scan Unit := do
  instr.target?.toList.forM (checkTarget analysis label loc)
  (body.reads instr).forM fun place =>
    Scan.objectIf (analysis.notFullyInit label place) loc (.useOfUninit place)

def checkInitialized (body : Body) (reachable : List Nat) (analysis : Uninitialized) :
    Scan Unit :=
  body.scan reachable (body.checkInitializedAt analysis)

end Body
end BorrowChecker
