import BorrowChecker.Proofs.Acceptance
import BorrowChecker.Proofs.ActiveLoans
import BorrowChecker.Proofs.AliasingRule
import BorrowChecker.Proofs.LiveLocals

namespace BorrowChecker

/-!
Loans that are active where a function returns.

A loan whose lifetime is alive at a caller point may be used by the caller.  If
its place lies in the storage of a local, that storage is gone by then.  For
parameters this cannot happen in an accepted body.  For temporaries it can, and
so it can for a result that is copied out while it is borrowed: exactly the loans
that a return does not look at are the ones that escape.
-/

namespace Analysis

def AliveInCaller (analysis : Analysis) (lifetime : Lifetime) : Prop :=
  ∃ generic ∈ analysis.body.generics,
    analysis.lifetimes.isAlive lifetime (.caller generic) = .ok true

def aliveInCaller (analysis : Analysis) (lifetime : Lifetime) : Bool :=
  analysis.body.generics.any fun generic =>
    (analysis.lifetimes.isAlive lifetime (.caller generic)).toOption == some true

theorem aliveInCaller_iff (analysis : Analysis) (lifetime : Lifetime) :
    analysis.aliveInCaller lifetime = true ↔ analysis.AliveInCaller lifetime := by
  have answered : ∀ question : Except Fault Bool,
      question.toOption = some true ↔ question = .ok true := by
    intro question
    cases question <;> simp [Except.toOption]
  simp [aliveInCaller, AliveInCaller, answered]

end Analysis

namespace Body

variable {body : Body}

/-- The place of an active loan starts at a local of the body. -/
theorem Accepted.root_inRange {analysis : Analysis} (accepted : body.Accepted analysis)
    {loan : Loan} {label : Nat} (active : loan ∈ analysis.loansAt label) :
    inRange body.locals.length loan.place.root = true := by
  rcases accepted.valid.inOrder with ⟨program, inOrder⟩
  rw [accepted.mem_loansAt_iff, mem_loans_iff] at active
  rcases loanAt?_eq_some.mp active.1 with ⟨_, _, _, _, _, here, _⟩
  exact (inOrder.instrInOrder here).operand_inRange List.mem_cons_self

/-- Where an accepted body returns, every active loan of a local's own storage is
of a temporary, or a shared one of a result that is copied.  No loan of storage
escapes to the caller if and only if no such loan does. -/
theorem storage_loans_at_return {report : Report} (reported : body.report [] = .ok report)
    (clean : report.violation? = none) {label : Nat} (reached : body.Reachable label)
    (returns : body.instr? label = some .ret) :
    (∀ loan ∈ report.analysis.loansAt label, loan.place.hasDeref = false →
      body.Unguarded loan) ∧
    ((∀ loan ∈ report.analysis.loansAt label, report.analysis.AliveInCaller loan.lifetime →
        loan.place.hasDeref = true) ↔
      ∀ loan ∈ report.analysis.loansAt label, report.analysis.AliveInCaller loan.lifetime →
        ¬ body.Unguarded loan) := by
  have accepted := accepted_of_report reported clean
  rcases accepted.valid.inOrder with ⟨program, inOrder⟩
  rcases accepted.aliasing reached returns with ⟨loc, passed⟩
  have unguarded : ∀ loan ∈ report.analysis.loansAt label, loan.place.hasDeref = false →
      body.Unguarded loan := by
    intro loan active direct
    exact inOrder.unguarded_of_checkActive passed active (accepted.root_inRange active) direct
  refine ⟨unguarded, ?_, ?_⟩
  · intro behindPointers loan active escapes isUnguarded
    have behindPointer := behindPointers loan active escapes
    rw [isUnguarded.direct] at behindPointer
    exact Bool.false_ne_true behindPointer
  · intro guarded loan active escapes
    cases direct : loan.place.hasDeref with
    | true => rfl
    | false => exact absurd (unguarded loan active direct) (guarded loan active escapes)

/-- A body that returns a reborrow of what its parameter points to. -/
def returnedReborrow : Body :=
  { name := "reborrow"
    program := some {}
    locals := [
      { name := "out", kind := .result, type := .borrow (.named "a") .shared .int },
      { name := "p", kind := .parameter, type := .borrow (.named "a") .shared .int }]
    code := [
      { instr := some (.assign (.ofLocal 0) (.borrow .shared (Place.ofLocal 1).deref) 1) },
      { instr := some .ret }]
    generics := [.named "a"] }

/-- The loan of the returned reference escapes, and lies behind a pointer. -/
theorem returnedReborrow_loan_behind_pointer :
    ∃ report, returnedReborrow.report [] = .ok report ∧ report.violation? = none ∧
      (∃ loan ∈ report.analysis.loansAt 1, report.analysis.AliveInCaller loan.lifetime) ∧
      ∀ loan ∈ report.analysis.loansAt 1, report.analysis.AliveInCaller loan.lifetime →
        loan.place.hasDeref = true := by
  have evaluated : returnedReborrow.acceptedWith (fun report =>
      ((report.analysis.loansAt 1).any fun loan => report.analysis.aliveInCaller loan.lifetime) &&
      (report.analysis.loansAt 1).all fun loan =>
        returnedReborrow.kindOf? loan.place.root == some .parameter) = true := by
    decide +kernel
  rcases exists_report_of_acceptedWith evaluated with ⟨report, reported, clean, found⟩
  rcases Bool.and_eq_true_iff.mp found with ⟨escaping, parameters⟩
  have reached : returnedReborrow.Reachable 1 := ⟨[0], .next .here ⟨_, rfl, by decide⟩⟩
  refine ⟨report, reported, clean, ?_, ?_⟩
  · rcases List.any_eq_true.mp escaping with ⟨loan, active, inCaller⟩
    exact ⟨loan, active, (Analysis.aliveInCaller_iff _ _).mp inCaller⟩
  · apply (storage_loans_at_return reported clean reached rfl).2.mpr
    intro loan active _ isUnguarded
    have isParameter : returnedReborrow.kindOf? loan.place.root = some .parameter := by
      simpa using List.all_eq_true.mp parameters loan active
    have kinds := isUnguarded.root
    simp [isParameter] at kinds

/-! ## Bodies from which storage escapes -/

/-- A body is accepted although a loan of the storage of a local of the given
kind is alive in the caller when the body returns. -/
def LetsStorageEscape (body : Body) (kind : LocalKind) : Prop :=
  ∃ report label, body.report [] = .ok report ∧ report.violation? = none ∧
    body.Reachable label ∧ body.instr? label = some .ret ∧
    ∃ loan ∈ report.analysis.loansAt label, report.analysis.AliveInCaller loan.lifetime ∧
      loan.place.hasDeref = false ∧ body.kindOf? loan.place.root = some kind

theorem letsStorageEscape_of_acceptedWith {kind : LocalKind} (label : Nat)
    (reached : body.Reachable label) (returns : body.instr? label = some .ret)
    (evaluated : body.acceptedWith (fun report => (report.analysis.loansAt label).any fun loan =>
      report.analysis.aliveInCaller loan.lifetime &&
        (!loan.place.hasDeref && body.kindOf? loan.place.root == some kind)) = true) :
    body.LetsStorageEscape kind := by
  rcases exists_report_of_acceptedWith evaluated with ⟨report, reported, clean, found⟩
  rcases List.any_eq_true.mp found with ⟨loan, active, properties⟩
  rcases Bool.and_eq_true_iff.mp properties with ⟨inCaller, rooted⟩
  refine ⟨report, label, reported, clean, reached, returns, loan, active, ?_, ?_⟩
  · exact (Analysis.aliveInCaller_iff _ _).mp inCaller
  · simpa using rooted

/-- A body whose result is a reference to one of its temporaries. -/
def escapingTemporary : Body :=
  { name := "temporary"
    program := some {}
    locals := [
      { name := "out", kind := .result, type := .borrow (.named "a") .shared .int },
      { name := "x", type := .int }]
    code := [
      { instr := some (.assign (.ofLocal 1) (.const 1) 1) },
      { instr := some (.assign (.ofLocal 0) (.borrow .shared (.ofLocal 1)) 2) },
      { instr := some .ret }]
    generics := [.named "a"] }

/-- A body that borrows its result for a lifetime of the caller. -/
def escapingResult : Body :=
  { name := "result"
    program := some {}
    locals := [
      { name := "out", kind := .result, type := .int },
      { name := "p", type := .borrow (.named "a") .shared .int }]
    code := [
      { instr := some (.assign (.ofLocal 0) (.const 1) 1) },
      { instr := some (.assign (.ofLocal 1) (.borrow .shared (.ofLocal 0)) 2) },
      { instr := some .ret }]
    generics := [.named "a"] }

/-- Accepted bodies let the storage of a temporary and of the result escape. -/
theorem storage_escapes_from_accepted_bodies :
    escapingTemporary.LetsStorageEscape .temporary ∧ escapingResult.LetsStorageEscape .result := by
  constructor
  · refine letsStorageEscape_of_acceptedWith 2
      ⟨[0, 1], .next (.next .here ⟨_, rfl, by decide⟩) ⟨_, rfl, by decide⟩⟩ rfl ?_
    decide +kernel
  · refine letsStorageEscape_of_acceptedWith 2
      ⟨[0, 1], .next (.next .here ⟨_, rfl, by decide⟩) ⟨_, rfl, by decide⟩⟩ rfl ?_
    decide +kernel

end Body
end BorrowChecker
