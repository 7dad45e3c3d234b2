import BorrowChecker.Analysis.Report
import BorrowChecker.Proofs.LiveLocals

namespace BorrowChecker

/-!
What does not depend on jumps.

Apart from control flow, nothing that is asked about an instruction depends on the
labels it continues at.  This is stated by comparing an instruction with the one
that jumps to the first label wherever it jumps: every question has the same answer
for both.  Similarly, a question about the places or types of a body has the same
answer after its code has been replaced.
-/

namespace Instr

def withoutJumps : Instr → Instr
  | assign target source _ => assign target source 0
  | deinit victim _ => deinit victim 0
  | goto _ => goto 0
  | branch condition _ _ => branch condition 0 0
  | call function arguments target _ => call function arguments target 0
  | ret => ret

def redirect (slot : Nat) (label : Int) : Instr → Instr
  | assign target source next => assign target source (if slot = 0 then label else next)
  | deinit victim next => deinit victim (if slot = 0 then label else next)
  | goto next => goto (if slot = 0 then label else next)
  | branch condition yes no =>
      branch condition (if slot = 0 then label else yes) (if slot = 1 then label else no)
  | call function arguments target next =>
      call function arguments target (if slot = 0 then label else next)
  | ret => ret

@[simp] theorem withoutJumps_redirect (instr : Instr) (slot : Nat) (label : Int) :
    (instr.redirect slot label).withoutJumps = instr.withoutJumps := by
  cases instr <;> rfl

/-- Changing a jump changes one way of leaving. -/
theorem successors_redirect (instr : Instr) (slot : Nat) (label : Int) :
    (instr.redirect slot label).successors = instr.successors.set slot label := by
  cases instr with
  | branch condition yes no =>
      match slot with
      | 0 | 1 => rfl
      | slot + 2 => simp [redirect, successors]
  | assign target source next => cases slot <;> simp [redirect, successors]
  | deinit victim next => cases slot <;> simp [redirect, successors]
  | goto next => cases slot <;> simp [redirect, successors]
  | call function arguments target next => cases slot <;> simp [redirect, successors]
  | ret => rfl

section WithoutJumps

variable (instr : Instr)

theorem places_withoutJumps : instr.withoutJumps.places = instr.places := by
  cases instr <;> rfl

theorem defs_withoutJumps : instr.withoutJumps.defs = instr.defs := by
  cases instr <;> rfl

theorem uses_withoutJumps (result : Option Int) :
    instr.withoutJumps.uses result = instr.uses result := by
  cases instr <;> rfl

end WithoutJumps
end Instr

namespace Body

section WithoutJumps

variable (body : Body) (instr : Instr)

theorem checkArity_withoutJumps (program : Program) (label : Nat) :
    body.checkArity program label instr.withoutJumps = body.checkArity program label instr := by
  cases instr with
  | assign target source next => cases source <;> rfl
  | deinit | goto | branch | call | ret => rfl

private theorem instrDemands_withoutJumps (program : Program) (collected : Collected) :
    body.instrDemands program collected instr.withoutJumps =
      body.instrDemands program collected instr := by
  cases instr with
  | assign target source next => cases source <;> rfl
  | deinit | goto | branch | call | ret => rfl

theorem events_withoutJumps : body.events instr.withoutJumps = body.events instr := by
  cases instr <;> rfl

theorem checkInitializedAt_withoutJumps (analysis : Uninitialized) (label : Nat) (loc : Loc) :
    body.checkInitializedAt analysis label loc instr.withoutJumps =
      body.checkInitializedAt analysis label loc instr := by
  cases instr <;> rfl

theorem checkWritableAt_withoutJumps (label : Nat) (loc : Loc) :
    body.checkWritableAt label loc instr.withoutJumps = body.checkWritableAt label loc instr := by
  cases instr with
  | assign target source next =>
      cases source with
      | borrow mutability place => cases mutability <;> rfl
      | use | const | unit | unary | binary | make | missing => rfl
  | deinit | goto | branch | call | ret => rfl

theorem checkActive_withoutJumps (loc : Loc) (active : List Loan) :
    body.checkActive loc active instr.withoutJumps = body.checkActive loc active instr := by
  cases instr with
  | assign target source next => cases source <;> rfl
  | deinit | goto | branch | call | ret => rfl

theorem loanAt_eq_withoutJumps (label : Nat) :
    body.loanAt label =
      match (body.instr? label).map Instr.withoutJumps with
      | some (.assign target (.borrow mutability place) _) => do
          match ← body.typeOf target with
          | .borrow lifetime _ _ => return some { label, place, mutability, lifetime }
          | other => .error (.borrowIntoNonBorrow target other)
      | _ => .ok none := by
  unfold loanAt
  cases body.instr? label with
  | none => rfl
  | some instr =>
      cases instr with
      | assign target source next => cases source <;> rfl
      | deinit | goto | branch | call | ret => rfl

end WithoutJumps

def withCode (body : Body) (code : List Stmt) : Body := { body with code }

section WithCode

variable (body : Body) (code : List Stmt)

private theorem stepType_withCode (place : Place) :
    (body.withCode code).stepType place = body.stepType place := rfl

theorem describe_withCode (place : Place) :
    (body.withCode code).describe place = body.describe place := rfl

theorem trackedIn_withCode : (body.withCode code).trackedIn = body.trackedIn := rfl

theorem checkArity_withCode (program : Program) (label : Nat) (instr : Instr) :
    (body.withCode code).checkArity program label instr = body.checkArity program label instr :=
  rfl

theorem checkInitializedAt_withCode (analysis : Uninitialized) (label : Nat) (loc : Loc)
    (instr : Instr) : (body.withCode code).checkInitializedAt analysis label loc instr =
      body.checkInitializedAt analysis label loc instr := rfl

theorem checkActive_withCode (loc : Loc) (active : List Loan) (instr : Instr) :
    (body.withCode code).checkActive loc active instr = body.checkActive loc active instr := rfl

private theorem pathIsWritable_withCode (place : Place) (type : Ty) (path : List Step) :
    (body.withCode code).pathIsWritable place type path = body.pathIsWritable place type path := by
  fun_induction body.pathIsWritable place type path with
  | case1 type => rw [pathIsWritable]
  | case2 lifetime target rest => rw [pathIsWritable]
  | case3 type step rest followsNoShared inductionHypothesis =>
      rw [pathIsWritable, stepType_withCode]
      · congr 1
        funext next
        exact inductionHypothesis next
      · exact followsNoShared

private theorem isWritable_withCode (place : Place) :
    (body.withCode code).isWritable place = body.isWritable place := by
  unfold isWritable
  simp only [pathIsWritable_withCode]
  rfl

theorem checkWritableAt_withCode (label : Nat) (loc : Loc) (instr : Instr) :
    (body.withCode code).checkWritableAt label loc instr =
      body.checkWritableAt label loc instr := by
  unfold checkWritableAt checkMutableBorrow
  simp only [isWritable_withCode]

private theorem unifyArguments_withCode (collected : Collected) (arguments : List (Ty × Int)) :
    (body.withCode code).unifyArguments collected arguments =
      body.unifyArguments collected arguments := by
  induction arguments generalizing collected with
  | nil => rfl
  | cons first rest inductionHypothesis =>
      unfold unifyArguments
      simp only [inductionHypothesis]
      rfl

private theorem unifyPositions_withCode (collected : Collected) (types : List Ty)
    (arguments : List Int)
    (mismatch : Fault) :
    (body.withCode code).unifyPositions collected types arguments mismatch =
      body.unifyPositions collected types arguments mismatch := by
  unfold unifyPositions
  rw [unifyArguments_withCode]

theorem stmtDemands_withCode : (body.withCode code).stmtDemands = body.stmtDemands := by
  funext program collected stmt
  unfold stmtDemands instrDemands
  simp only [unifyPositions_withCode]
  rfl

theorem ownersAlong_withCode (places : List Place) :
    (body.withCode code).ownersAlong places = body.ownersAlong places := by
  induction places with
  | nil => rfl
  | cons place outer inductionHypothesis =>
      unfold ownersAlong
      rw [inductionHypothesis]
      rfl

theorem events_withCode (instr : Instr) :
    (body.withCode code).events instr = body.events instr := by
  unfold events initEvent
  simp only [ownersAlong_withCode]
  rfl

end WithCode
end Body

namespace Stmt

def withoutJumps (stmt : Stmt) : Stmt := { stmt with instr := stmt.instr.map Instr.withoutJumps }

theorem stmtDemands_withoutJumps (body : Body) (program : Program) (collected : Collected)
    (stmt : Stmt) :
    body.stmtDemands program collected stmt.withoutJumps =
      body.stmtDemands program collected stmt := by
  rcases stmt with ⟨_ | instr, loc⟩
  · rfl
  · exact body.instrDemands_withoutJumps instr program collected

theorem trackedIn_withoutJumps (body : Body) (stmt : Stmt) :
    body.trackedIn stmt.withoutJumps = body.trackedIn stmt := by
  rcases stmt with ⟨_ | instr, loc⟩
  · rfl
  · simp [withoutJumps, Body.trackedIn, Instr.places_withoutJumps]

end Stmt
end BorrowChecker
