import BorrowChecker.Rules.Complaint

namespace BorrowChecker

/-!
The mutability rule: nothing behind a shared borrow is written or mutably
borrowed.
-/

namespace Body

/-- A mutably borrowed place is writable. -/
def checkMutableBorrow (body : Body) (loc : Loc) : Instr → Scan Unit
  | .assign _ (.borrow .unique place) _ => do
      Scan.objectIf (!(← Scan.ask (body.isWritable place))) loc (.mutBorrowOfShared place)
  | _ => .ok ()

def checkWritableAt (body : Body) (_label : Nat) (loc : Loc) (instr : Instr) : Scan Unit := do
  body.checkMutableBorrow loc instr
  instr.target?.toList.forM fun target => do
    Scan.objectIf (!(← Scan.ask (body.isWritable target))) loc (.sharedWrite target)

def checkWritable (body : Body) (reachable : List Nat) : Scan Unit :=
  body.scan reachable body.checkWritableAt

end Body
end BorrowChecker
