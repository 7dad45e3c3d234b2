import BorrowChecker.Proofs.Jumps
import BorrowChecker.Proofs.LifetimePoints
import BorrowChecker.Proofs.LoanPaths
import Mathlib.Data.List.Sort

namespace BorrowChecker

/-!
Bodies that differ in unreachable code.

Two bodies with the same declarations are compared that have the same statements at
all reachable labels.  Elsewhere their code may differ in any way, and so may its
length.  They have the same ways through them, and the same locals are live at their
labels.  Where lifetimes and loans are concerned, they need not agree: demands on
lifetimes are collected from all instructions, reachable or not.  But the demands
matter only as far as they relate the lifetimes that the rules ask for to declared
ones.  The more lifetimes are related, the more loans are active, and bodies that
relate the same ones have the same loans active at every label.
-/

/-- An increasing list is determined by its members. -/
private theorem eq_of_increasing {α : Type} (key : α → Nat) {left right : List α}
    (leftIncreasing : left.Pairwise fun first second => key first < key second)
    (rightIncreasing : right.Pairwise fun first second => key first < key second)
    (same : ∀ member, member ∈ left ↔ member ∈ right) : left = right := by
  have antisymm : Std.Antisymm fun first second : α => key first < key second :=
    ⟨fun _ _ less more => absurd more (Nat.lt_asymm less)⟩
  have irrefl : Std.Irrefl fun first second : α => key first < key second :=
    ⟨fun _ => Nat.lt_irrefl _⟩
  exact leftIncreasing.eq_of_mem_iff rightIncreasing same

namespace Body

/-- Two bodies that differ at most in their code, and there only at unreachable
labels. -/
structure SameReached (body other : Body) : Prop where
  frame : ∃ code, other = body.withCode code
  code : ∀ label, body.Reachable label → other.code[label]? = body.code[label]?

/-- Whether code has the statements of a body at its reachable labels. -/
def keepsReached (body : Body) (code : List Stmt) : Bool :=
  body.flow.toOption.any fun flow =>
    flow.reachable.all fun label => code[label]? == body.code[label]?

theorem sameReached_of_test {body : Body} {code : List Stmt}
    (tested : body.keepsReached code = true) : body.SameReached (body.withCode code) := by
  rcases (Option.any_eq_true _ _).mp tested with ⟨flow, isFlow, kept⟩
  have found := toOption_eq_some.mp isFlow
  refine { frame := ⟨code, rfl⟩, code := ?_ }
  intro label reached
  have atLabel := List.all_eq_true.mp kept label ((Flow.mem_reachable_iff found label).mpr reached)
  exact beq_iff_eq.mp atLabel

namespace SameReached

variable {body other : Body} {program : Program}

/-! ## Ways through the bodies -/

theorem instr (same : body.SameReached other) {label : Nat} (reached : body.Reachable label) :
    other.instr? label = body.instr? label := by
  unfold instr?
  rw [same.code label reached]

theorem edge_iff (same : body.SameReached other) {source target : Nat}
    (reached : body.Reachable source) : other.Edge source target ↔ body.Edge source target := by
  unfold Edge
  rw [same.instr reached]

theorem entry (same : body.SameReached other) : other.entry = body.entry := by
  rcases same.frame with ⟨code, rfl⟩
  rfl

theorem generics_eq (same : body.SameReached other) : other.generics = body.generics := by
  rcases same.frame with ⟨code, rfl⟩
  rfl

theorem reachable_iff (same : body.SameReached other) (label : Nat) :
    other.Reachable label ↔ body.Reachable label := by
  constructor
  · intro reached
    rcases reached with ⟨labels, walk⟩
    rw [same.entry] at walk
    induction walk with
    | here => exact ⟨[], .here⟩
    | next _ step inductionHypothesis =>
        exact inductionHypothesis.next ((same.edge_iff inductionHypothesis).mp step)
  · intro reached
    rcases reached with ⟨labels, walk⟩
    induction walk with
    | here => exact ⟨[], same.entry ▸ .here⟩
    | next before step inductionHypothesis =>
        exact inductionHypothesis.next ((same.edge_iff ⟨_, before⟩).mpr step)

theorem symm (same : body.SameReached other) : other.SameReached body := by
  constructor
  · rcases same.frame with ⟨code, rfl⟩
    exact ⟨body.code, rfl⟩
  · intro label reached
    exact (same.code label ((same.reachable_iff label).mp reached)).symm

theorem lt_length (same : body.SameReached other) (inOrder : body.InOrder program) {label : Nat}
    (reached : body.Reachable label) :
    label < body.code.length ∧ label < other.code.length := by
  rcases inOrder.exists_flow with ⟨flow, found⟩
  have below : label < body.code.length :=
    Flow.size_eq found ▸ Flow.lt_size_of_reachable found reached
  refine ⟨below, ?_⟩
  have there := same.code label reached
  rw [List.getElem?_eq_getElem below] at there
  exact (List.getElem?_eq_some_iff.mp there).1

/-- The rules go through the same labels, in the same order. -/
theorem reachable_eq (same : body.SameReached other) {flow otherFlow : Flow}
    (found : body.flow = .ok flow) (otherFound : other.flow = .ok otherFlow) :
    otherFlow.reachable = flow.reachable := by
  apply eq_of_increasing id
  · exact List.pairwise_lt_range.filter _
  · exact List.pairwise_lt_range.filter _
  · intro label
    rw [Flow.mem_reachable_iff otherFound, Flow.mem_reachable_iff found, same.reachable_iff]

/-! ## Live locals -/

theorem readLater (same : body.SameReached other) {position label : Nat}
    (reached : body.Reachable label) (later : body.ReadLater position label) :
    other.ReadLater position label := by
  have sameReturned : other.returned? = body.returned? := by
    rcases same.frame with ⟨code, rfl⟩
    rfl
  induction later with
  | here found reads =>
      exact .here ((same.instr reached).trans found) (sameReturned ▸ reads)
  | later found kept step _ inductionHypothesis =>
      exact .later ((same.instr reached).trans found) kept ((same.edge_iff reached).mpr step)
        (inductionHypothesis (reached.next step))

section Analyses

variable {analysis later : Analysis} (same : body.SameReached other)
  (analyzed : body.Analyzed analysis) (analyzedOther : other.Analyzed later)

include same analyzed analyzedOther

theorem mem_liveAt_iff (label position : Nat) :
    position ∈ later.liveness.liveAt label ↔ position ∈ analysis.liveness.liveAt label := by
  rcases analyzed.valid.inOrder with ⟨program, inOrder⟩
  rcases analyzedOther.valid.inOrder with ⟨_, inOrderOther⟩
  rw [analyzedOther.liveness, analyzed.liveness,
    inOrderOther.mem_liveAt_iff_readLater analyzedOther.flow,
    inOrder.mem_liveAt_iff_readLater analyzed.flow, same.reachable_iff]
  apply and_congr_right
  intro reached
  constructor
  · exact same.symm.readLater ((same.reachable_iff label).mpr reached)
  · exact same.readLater reached

private theorem requiredAt_iff (lifetime : Lifetime) (label : Nat) :
    other.RequiredAt later.liveness lifetime label ↔
      body.RequiredAt analysis.liveness lifetime label := by
  simp only [RequiredAt, same.mem_liveAt_iff analyzed analyzedOther]
  rcases same.frame with ⟨code, rfl⟩
  rfl

end Analyses
end SameReached

/-! ## Lifetimes -/

/-- The lifetimes whose points the rules ask for: generics, and the lifetimes of loans
that reachable instructions create. -/
def Asked (body : Body) (lifetime : Lifetime) : Prop :=
  lifetime ∈ body.generics ∨
    ∃ loan ∈ body.loans, body.Reachable loan.label ∧ loan.lifetime = lifetime

/-- The lifetimes that a body declares: generics, and those in the types of locals. -/
def Declared (body : Body) (lifetime : Lifetime) : Prop :=
  lifetime ∈ body.generics ∨ ∃ entry ∈ body.locals, lifetime ∈ entry.type.lifetimes

/-- Of the lifetimes that the rules ask for, one graph makes none outlast a declared
lifetime that it does not outlast by the other graph. -/
def OutlastsWithin (body : Body) (graph larger : OutlivesGraph) : Prop :=
  ∀ long short, body.Asked long → body.Declared short → graph.Outlasts long short →
    larger.Outlasts long short

theorem RequiredAt.declared {body : Body} {liveness : Liveness} {lifetime : Lifetime}
    {label : Nat} (required : body.RequiredAt liveness lifetime label) :
    body.Declared lifetime := by
  rcases required with generic | live
  · exact .inl generic
  · rcases live with ⟨position, _, entry, declared, occurs⟩
    exact .inr ⟨entry, List.mem_of_getElem? declared, occurs⟩

namespace SameReached

variable {body other : Body} {program : Program}

/-- A reachable label creates the same loan. -/
theorem loanAt?_eq (same : body.SameReached other) {label : Nat}
    (reached : body.Reachable label) : other.loanAt? label = body.loanAt? label := by
  have sameInstr := same.instr reached
  rcases same.frame with ⟨code, rfl⟩
  unfold loanAt? loanAt
  rw [sameInstr]
  rfl

theorem mem_loans_iff (same : body.SameReached other) {loan : Loan}
    (reached : body.Reachable loan.label) : loan ∈ other.loans ↔ loan ∈ body.loans := by
  rw [Body.mem_loans_iff, Body.mem_loans_iff, same.loanAt?_eq reached]

/-- A loan stays alive along the same ways wherever its lifetime does. -/
theorem keptAlive (same : body.SameReached other) {first second : LifetimeSets} {loan : Loan}
    (created : body.Reachable loan.label)
    (stays : ∀ label, body.Reachable label → first.isAliveAt loan.lifetime label = true →
      second.isAliveAt loan.lifetime label = true) {label : Nat}
    (kept : body.KeptAlive first loan label) : other.KeptAlive second loan label := by
  induction kept with
  | created step alive =>
      exact .created ((same.edge_iff created).mpr step) (stays _ (created.next step) alive)
  | next before step alive inductionHypothesis =>
      have reached := before.reachable created
      exact .next inductionHypothesis ((same.edge_iff reached).mpr step)
        (stays _ (reached.next step) alive)

private theorem asked_iff (same : body.SameReached other) (lifetime : Lifetime) :
    other.Asked lifetime ↔ body.Asked lifetime := by
  unfold Asked
  rw [same.generics_eq]
  apply or_congr_right
  apply exists_congr
  intro loan
  rw [same.reachable_iff]
  constructor
  · intro created
    exact ⟨(same.mem_loans_iff created.2.1).mp created.1, created.2⟩
  · intro created
    exact ⟨(same.mem_loans_iff created.2.1).mpr created.1, created.2⟩

private theorem outlastsWithin_iff (same : body.SameReached other) (graph larger : OutlivesGraph) :
    other.OutlastsWithin graph larger ↔ body.OutlastsWithin graph larger := by
  have sameDeclared : ∀ lifetime, other.Declared lifetime ↔ body.Declared lifetime := by
    rcases same.frame with ⟨code, rfl⟩
    exact fun lifetime => Iff.rfl
  unfold OutlastsWithin
  simp only [same.asked_iff, sameDeclared]

section Analyses

variable {analysis later : Analysis} (same : body.SameReached other)
  (analyzed : body.Analyzed analysis) (analyzedOther : other.Analyzed later)

include same analyzed analyzedOther

private theorem isAliveAt_of_outlastsWithin
    (within : body.OutlastsWithin analysis.graph later.graph)
    {lifetime : Lifetime} (asked : body.Asked lifetime) {label : Nat}
    (reached : body.Reachable label)
    (alive : analysis.lifetimes.isAliveAt lifetime label = true) :
    later.lifetimes.isAliveAt lifetime label = true := by
  rcases analyzed.valid.inOrder with ⟨program, inOrder⟩
  rcases same.lt_length inOrder reached with ⟨below, belowOther⟩
  rcases (analyzed.isAliveAt_label_iff lifetime below).mp alive with ⟨short, outlasts, required⟩
  exact (analyzedOther.isAliveAt_label_iff lifetime belowOther).mpr
    ⟨short, within lifetime short asked required.declared outlasts,
      (same.requiredAt_iff analyzed analyzedOther short label).mpr required⟩

/-- With more demands, no fewer loans are active. -/
theorem mem_loansAt_of_outlastsWithin (within : body.OutlastsWithin analysis.graph later.graph)
    {label : Nat} {loan : Loan} (active : loan ∈ analysis.loansAt label) :
    loan ∈ later.loansAt label := by
  rcases (analyzed.mem_loansAt_iff_keptAlive loan label).mp active with ⟨known, created, kept⟩
  refine (analyzedOther.mem_loansAt_iff_keptAlive loan label).mpr
    ⟨(same.mem_loans_iff created).mpr known, (same.reachable_iff _).mpr created,
      same.keptAlive created ?_ kept⟩
  intro passed reached alive
  exact same.isAliveAt_of_outlastsWithin analyzed analyzedOther within
    (.inr ⟨loan, known, created, rfl⟩) reached alive

variable (within : body.OutlastsWithin analysis.graph later.graph)
  (around : body.OutlastsWithin later.graph analysis.graph)

include within around

theorem aliveCallers_eq {generic : Lifetime} (listed : generic ∈ body.generics) :
    later.aliveCallers generic = analysis.aliveCallers generic := by
  have sameIndex : ∀ generic, other.pointSpace.genericIndex? generic =
      body.pointSpace.genericIndex? generic := by
    rcases same.frame with ⟨code, rfl⟩
    exact fun generic => rfl
  unfold Analysis.aliveCallers
  rw [analyzedOther.sameBody, analyzed.sameBody, same.generics_eq]
  congr 1
  apply List.filter_congr
  intro position _
  rw [Bool.eq_iff_iff, analyzedOther.isAliveAt_caller_iff, analyzed.isAliveAt_caller_iff]
  simp only [sameIndex]
  apply exists_congr
  intro short
  apply and_congr_left
  intro found
  have listedShort : short ∈ body.generics :=
    List.mem_of_getElem? (PointSpace.getElem?_of_genericIndex? found)
  exact ⟨around generic short (.inl listed) (.inl listedShort),
    within generic short (.inl listed) (.inl listedShort)⟩

/-- With the same demands, the same loans are active, in the same order. -/
theorem loansAt_eq (label : Nat) : later.loansAt label = analysis.loansAt label := by
  apply eq_of_increasing Loan.label
  · rw [Analysis.loansAt, analyzedOther.loans]
    exact activeAt_increasing _ _ _ _
  · rw [Analysis.loansAt, analyzed.loans]
    exact activeAt_increasing _ _ _ _
  · intro loan
    constructor
    · exact same.symm.mem_loansAt_of_outlastsWithin analyzedOther analyzed
        ((same.outlastsWithin_iff _ _).mpr around)
    · exact same.mem_loansAt_of_outlastsWithin analyzed analyzedOther within

end Analyses
end SameReached
end Body
end BorrowChecker
