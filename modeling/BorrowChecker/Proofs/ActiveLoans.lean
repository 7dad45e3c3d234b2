import BorrowChecker.Loan
import BorrowChecker.Proofs.Acceptance
import BorrowChecker.Proofs.Dataflow

namespace BorrowChecker

/-!
Loans along the control flow.

A loan is known by the label that creates it.  It arrives at the successors of
that label, and from a label where it arrived and its lifetime is alive it
arrives at the successors in turn.
-/

namespace Body

variable {body : Body} {flow : Flow} {lifetimes : LifetimeSets}

theorem loanAt?_eq_some {label : Nat} {loan : Loan} :
    body.loanAt? label = some loan ↔ loan.label = label ∧
      ∃ target next mutability pointee,
        body.instr? label = some (.assign target (.borrow loan.mutability loan.place) next) ∧
        body.typeOf target = .ok (.borrow loan.lifetime mutability pointee) := by
  have determined : body.loanAt? label = some loan ↔ body.loanAt label = .ok (some loan) := by
    unfold loanAt?
    cases body.loanAt label <;> simp [Except.toOption]
  rw [determined]
  unfold loanAt
  constructor
  · intro found
    split at found
    · rename_i target mutability place next here
      rcases bind_eq_ok.mp found with ⟨type, typed, found⟩
      split at found
      · rename_i lifetime written pointee
        have same := Option.some.inj (Except.ok.inj found)
        rw [← same]
        exact ⟨rfl, target, next, written, pointee, here, typed⟩
      · simp at found
    · simp at found
  · rintro ⟨rfl, target, next, mutability, pointee, here, typed⟩
    rw [here]
    exact bind_eq_ok.mpr ⟨_, typed, rfl⟩

theorem mem_loans_iff (loan : Loan) :
    loan ∈ body.loans ↔ body.loanAt? loan.label = some loan := by
  unfold loans labels
  rw [List.mem_filterMap]
  constructor
  · rintro ⟨label, _, found⟩
    rw [(loanAt?_eq_some.mp found).1]
    exact found
  · intro found
    rcases loanAt?_eq_some.mp found with ⟨_, _, _, _, _, here, _⟩
    exact ⟨loan.label, List.mem_range.mpr (lt_length_of_instr? here), found⟩

/-- A loan of the body is determined by its label. -/
theorem eq_of_mem_loans {first second : Loan} (isFirst : first ∈ body.loans)
    (isSecond : second ∈ body.loans) (sameLabel : first.label = second.label) :
    first = second := by
  have ofFirst := (mem_loans_iff first).mp isFirst
  have ofSecond := (mem_loans_iff second).mp isSecond
  rw [sameLabel] at ofFirst
  exact Option.some.inj (ofFirst.symm.trans ofSecond)

/-- What an instruction does to the loans that arrived at it: those that are not
alive are dropped, and its own is added. -/
def loanTransfer (body : Body) (lifetimes : LifetimeSets) (label : Nat)
    (set : IndexSet body.code.length) : IndexSet body.code.length :=
  let survivors := body.labels.map fun label =>
    IndexSet.ofList body.code.length ((aliveLoans body.loans lifetimes label).map Loan.label)
  let created := body.labels.map fun label =>
    IndexSet.ofList body.code.length ((body.loanAt? label).toList.map Loan.label)
  (set.inter (survivors[label]?.getD IndexSet.empty)).union
    (created[label]?.getD IndexSet.empty)

theorem states_activeLoans : (body.activeLoans flow lifetimes).states =
    flow.solveForward IndexSet.empty (body.loanTransfer lifetimes) := rfl

theorem contains_loanTransfer {label : Nat} (below : label < body.code.length)
    (set : IndexSet body.code.length) {loan : Loan} (known : loan ∈ body.loans) :
    (body.loanTransfer lifetimes label set).contains loan.label = true ↔
      (set.contains loan.label = true ∧ lifetimes.isAliveAt loan.lifetime label = true) ∨
        loan.label = label := by
  have created := (mem_loans_iff loan).mp known
  rcases loanAt?_eq_some.mp created with ⟨_, _, _, _, _, here, _⟩
  have inside := lt_length_of_instr? here
  have survives : loan.label ∈ (aliveLoans body.loans lifetimes label).map Loan.label ↔
      lifetimes.isAliveAt loan.lifetime label = true := by
    rw [List.mem_map]
    constructor
    · rintro ⟨other, listed, sameLabel⟩
      have parts := List.mem_filter.mp listed
      rw [← eq_of_mem_loans parts.1 known sameLabel]
      exact parts.2
    · intro alive
      exact ⟨loan, List.mem_filter.mpr ⟨known, alive⟩, rfl⟩
  have starts : loan.label ∈ (body.loanAt? label).toList.map Loan.label ↔ loan.label = label := by
    simp only [List.mem_map, Option.mem_toList]
    constructor
    · rintro ⟨other, found, sameLabel⟩
      rw [← sameLabel]
      exact (loanAt?_eq_some.mp found).1
    · intro same
      exact ⟨loan, same ▸ created, rfl⟩
  simp only [loanTransfer, labels, List.getElem?_map, List.getElem?_range below, Option.map_some,
    Option.getD_some, IndexSet.contains_union, IndexSet.contains_inter, IndexSet.contains_ofList,
    Bool.or_eq_true, Bool.and_eq_true, decide_eq_true_eq, List.contains_iff_mem, inside, true_and]
  rw [survives, starts]

/-- A loan has arrived at a label. -/
def Arrives (body : Body) (flow : Flow) (lifetimes : LifetimeSets) (loan : Loan) (label : Nat) :
    Prop :=
  ∃ set, (body.activeLoans flow lifetimes).states.at? label = some set ∧
    set.contains loan.label = true

/-- Active at a label are the loans that arrived there and are alive. -/
theorem mem_activeAt_iff (loan : Loan) (label : Nat) :
    loan ∈ (body.activeLoans flow lifetimes).activeAt lifetimes label ↔
      loan ∈ body.loans ∧ body.Arrives flow lifetimes loan label ∧
        lifetimes.isAliveAt loan.lifetime label = true := by
  unfold ActiveLoans.activeAt Arrives
  cases found : (body.activeLoans flow lifetimes).states.at? label with
  | none => simp
  | some set =>
      have sameLoans : (body.activeLoans flow lifetimes).loans = body.loans := rfl
      simp [List.mem_filter, sameLoans]

theorem Analyzed.mem_loansAt_iff {analysis : Analysis} (analyzed : body.Analyzed analysis)
    (loan : Loan) (label : Nat) :
    loan ∈ analysis.loansAt label ↔
      loan ∈ body.loans ∧ body.Arrives analysis.flow analysis.lifetimes loan label ∧
        analysis.lifetimes.isAliveAt loan.lifetime label = true := by
  unfold Analysis.loansAt
  rw [analyzed.loans]
  exact mem_activeAt_iff loan label

/-- The active loans are a selection of the loans of the body. -/
theorem Analyzed.loansAt_eq_filter {analysis : Analysis} (analyzed : body.Analyzed analysis)
    (label : Nat) :
    ∃ selected, analysis.loansAt label = body.loans.filter selected := by
  unfold Analysis.loansAt ActiveLoans.activeAt
  rw [analyzed.loans]
  split
  · exact ⟨fun _ => false, by simp⟩
  · exact ⟨_, rfl⟩

/-- A new loan arrives behind the label that creates it. -/
theorem arrives_of_created (found : body.flow = .ok flow) {loan : Loan}
    (known : loan ∈ body.loans) (reached : body.Reachable loan.label) {next : Nat}
    (step : body.Edge loan.label next) : body.Arrives flow lifetimes loan next := by
  rcases (Flow.solveForward_isSome_iff IndexSet.empty (body.loanTransfer lifetimes) found
    loan.label).mpr reached with ⟨set, here⟩
  rcases Flow.solveForward_edge IndexSet.empty _ found here step with ⟨later, there, included⟩
  have below := Flow.lt_size_of_reachable found reached
  rw [Flow.size_eq found] at below
  refine ⟨later, there, included loan.label ?_⟩
  exact (contains_loanTransfer below set known).mpr (.inr rfl)

/-- A loan that is alive where it arrived arrives one step further. -/
theorem Arrives.next (found : body.flow = .ok flow) {loan : Loan} {label next : Nat}
    (arrives : body.Arrives flow lifetimes loan label) (known : loan ∈ body.loans)
    (alive : lifetimes.isAliveAt loan.lifetime label = true) (step : body.Edge label next) :
    body.Arrives flow lifetimes loan next := by
  rcases arrives with ⟨set, here, member⟩
  rw [states_activeLoans] at here
  rcases Flow.solveForward_edge IndexSet.empty _ found here step with ⟨later, there, included⟩
  have below := (Flow.lt_size_of_mem_successors found
    ((Flow.mem_successors_iff found label next).mpr step)).1
  rw [Flow.size_eq found] at below
  refine ⟨later, there, included loan.label ?_⟩
  exact (contains_loanTransfer below set known).mpr (.inl ⟨member, alive⟩)

end Body
end BorrowChecker
