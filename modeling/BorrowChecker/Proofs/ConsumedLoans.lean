import BorrowChecker.Proofs.ActiveLoans
import BorrowChecker.Proofs.AliasingRule
import BorrowChecker.Proofs.PathStates

namespace BorrowChecker

/-!
Storage that is given up while it is on loan.

What an instruction takes away from a place is decided twice, by the events that
drive the initialization analysis and by the aliasing rule.  Along every way on
which a loan stays alive the two agree, with one exception.  A branch gives up its
condition in any case, but the rule sees no more than a read of a value that can
be copied, and that is no conflict with a shared loan.
-/

theorem Place.ofLocal_overlaps_iff (position : Int) (place : Place) :
    (Place.ofLocal position).overlaps place = true ↔ place.root = position := by
  unfold overlaps
  rw [Bool.or_eq_true, isWithin_ofLocal_iff]
  constructor
  · rintro (rfl | inside)
    · rfl
    · simpa [isWithin, ofLocal] using inside
  · intro rooted
    exact .inr (by simp [isWithin, ofLocal, rooted])

namespace Body

variable {body : Body}

/-- Whatever may be moved is read, and not borrowed. -/
theorem reads_of_mem_movable (body : Body) {instr : Instr} {place : Place}
    (movable : place ∈ instr.movable) :
    instr.isBorrow = false ∧ place ∈ body.reads instr := by
  cases instr with
  | assign target source next =>
      cases borrowing : source.isBorrow with
      | true => simp [Instr.movable, borrowing] at movable
      | false =>
          refine ⟨borrowing, List.mem_append_left _ ?_⟩
          simpa [Instr.movable, borrowing, Instr.operands] using movable
  | call function arguments target next => exact ⟨rfl, List.mem_append_left _ movable⟩
  | deinit | goto | branch | ret => simp [Instr.movable] at movable

/-! ## Loans that stay alive -/

/-- Some way from where a loan is created leads to a label, and the lifetime of the
loan is alive at every label of it. -/
inductive KeptAlive (body : Body) (lifetimes : LifetimeSets) (loan : Loan) : Nat → Prop where
  | created {label : Nat} (step : body.Edge loan.label label)
      (alive : lifetimes.isAliveAt loan.lifetime label = true) : KeptAlive body lifetimes loan label
  | next {label following : Nat} (before : KeptAlive body lifetimes loan label)
      (step : body.Edge label following)
      (alive : lifetimes.isAliveAt loan.lifetime following = true) :
      KeptAlive body lifetimes loan following

namespace KeptAlive

variable {analysis : Analysis} {loan : Loan} {label : Nat}

theorem reachable {lifetimes : LifetimeSets} (kept : body.KeptAlive lifetimes loan label)
    (reached : body.Reachable loan.label) : body.Reachable label := by
  induction kept with
  | created step _ => exact reached.next step
  | next _ step _ inductionHypothesis => exact inductionHypothesis.next step

theorem alive {lifetimes : LifetimeSets} (kept : body.KeptAlive lifetimes loan label) :
    lifetimes.isAliveAt loan.lifetime label = true := by
  cases kept with
  | created _ alive => exact alive
  | next _ _ alive => exact alive

/-- A loan that stays alive arrives. -/
theorem arrives {flow : Flow} {lifetimes : LifetimeSets}
    (kept : body.KeptAlive lifetimes loan label) (found : body.flow = .ok flow)
    (known : loan ∈ body.loans) (reached : body.Reachable loan.label) :
    body.Arrives flow lifetimes loan label := by
  induction kept with
  | created step _ => exact arrives_of_created found known reached step
  | next before step _ inductionHypothesis =>
      exact inductionHypothesis.next found known before.alive step

/-- A loan that stays alive stays active. -/
theorem active (kept : body.KeptAlive analysis.lifetimes loan label)
    (analyzed : body.Analyzed analysis) (known : loan ∈ body.loans)
    (reached : body.Reachable loan.label) : loan ∈ analysis.loansAt label :=
  (analyzed.mem_loansAt_iff loan label).mpr
    ⟨known, kept.arrives analyzed.flow known reached, kept.alive⟩

end KeptAlive

/-- Where a loan arrives, the label before created it or kept it alive. -/
theorem keptAlive_before_of_arrives {flow : Flow} {lifetimes : LifetimeSets} {loan : Loan}
    {label : Nat} (found : body.flow = .ok flow) (known : loan ∈ body.loans)
    (arrives : body.Arrives flow lifetimes loan label) :
    body.Reachable loan.label ∧ ∃ before, body.Edge before label ∧
      (before = loan.label ∨ body.KeptAlive lifetimes loan before) := by
  let accounted (label : Nat) (set : IndexSet body.code.length) : Prop :=
    body.Reachable label ∧ (set.contains loan.label = true →
      body.Reachable loan.label ∧ ∃ before, body.Edge before label ∧
        (before = loan.label ∨ body.KeptAlive lifetimes loan before))
  rcases arrives with ⟨set, here, member⟩
  rw [states_activeLoans] at here
  have holds : accounted label set := by
    refine Flow.solveForward_holds IndexSet.empty (body.loanTransfer lifetimes) ?_ ?_ ?_ here
    · refine ⟨⟨[], Flow.entry_eq found ▸ .here⟩, fun member => ?_⟩
      simp at member
    · rintro _ left right ⟨reached, ofLeft⟩ ⟨_, ofRight⟩
      refine ⟨reached, fun member => ?_⟩
      rw [IndexSet.contains_union, Bool.or_eq_true] at member
      exact member.elim ofLeft ofRight
    · rintro source before target ⟨reached, ofBefore⟩ edge
      have step := (Flow.mem_successors_iff found source target).mp edge
      refine ⟨reached.next step, fun member => ?_⟩
      have below : source < body.code.length :=
        Flow.size_eq found ▸ Flow.lt_size_of_reachable found reached
      rcases (contains_loanTransfer below before known).mp member with ⟨present, alive⟩ | created
      · rcases ofBefore present with ⟨reachedLoan, earlier, stepBefore, rfl | kept⟩
        · exact ⟨reachedLoan, source, step, .inr (.created stepBefore alive)⟩
        · exact ⟨reachedLoan, source, step, .inr (.next kept stepBefore alive)⟩
      · exact ⟨created ▸ reached, source, step, .inl created.symm⟩
  exact holds.2 member

/-- Active loans are exact, wherever lifetimes are alive: active at a label are the
loans of reachable labels that some way keeps alive up to there. -/
theorem mem_activeAt_iff_keptAlive {flow : Flow} (found : body.flow = .ok flow)
    (lifetimes : LifetimeSets) (loan : Loan) (label : Nat) :
    loan ∈ (body.activeLoans flow lifetimes).activeAt lifetimes label ↔
      loan ∈ body.loans ∧ body.Reachable loan.label ∧ body.KeptAlive lifetimes loan label := by
  rw [mem_activeAt_iff]
  constructor
  · rintro ⟨known, arrives, alive⟩
    rcases keptAlive_before_of_arrives found known arrives with ⟨reached, before, step, rfl | kept⟩
    · exact ⟨known, reached, .created step alive⟩
    · exact ⟨known, reached, .next kept step alive⟩
  · rintro ⟨known, reached, kept⟩
    exact ⟨known, kept.arrives found known reached, kept.alive⟩

theorem Analyzed.mem_loansAt_iff_keptAlive {analysis : Analysis} (analyzed : body.Analyzed analysis)
    (loan : Loan) (label : Nat) :
    loan ∈ analysis.loansAt label ↔ loan ∈ body.loans ∧ body.Reachable loan.label ∧
      body.KeptAlive analysis.lifetimes loan label := by
  unfold Analysis.loansAt
  rw [analyzed.loans]
  exact mem_activeAt_iff_keptAlive analyzed.flow analysis.lifetimes loan label

/-! ## What an accepted instruction gives up -/

/-- An instruction that passes moves nothing that is on loan. -/
theorem apart_of_moves {loc : Loc} {active : List Loan} {instr : Instr}
    (passed : body.checkActive loc active instr = .ok ()) {loan : Loan} (listed : loan ∈ active)
    {place : Place} (movable : place ∈ instr.movable) (moved : body.moves place = true) :
    place.overlaps loan.place = false := by
  rw [Bool.eq_false_iff]
  intro overlap
  rcases reads_of_mem_movable body movable with ⟨reading, reads⟩
  have used := checkUse_of_checkActive passed reading reads
  have copied := (shared_of_checkUse used listed overlap).2
  simp [moves, copied, Except.toOption] at moved

/-- An instruction that passes and gives up a local on loan is a branch. -/
theorem branch_of_surrendered {loc : Loc} {active : List Loan} {instr : Instr}
    (passed : body.checkActive loc active instr = .ok ()) {loan : Loan} (listed : loan ∈ active)
    (direct : loan.place.hasDeref = false) (surrendered : loan.place.root ∈ instr.surrendered) :
    (∃ yes no, instr = .branch loan.place.root yes no) ∧ loan.mutability = .shared ∧
      body.isCopyable (.ofLocal loan.place.root) = .ok true := by
  cases instr with
  | branch condition yes no =>
      rw [← List.mem_singleton.mp surrendered] at passed ⊢
      have reads : Place.ofLocal loan.place.root ∈ body.reads (.branch loan.place.root yes no) :=
        List.mem_append_left _ List.mem_cons_self
      have used := checkUse_of_checkActive passed rfl reads
      have overlap := (Place.ofLocal_overlaps_iff _ loan.place).mpr rfl
      exact ⟨⟨yes, no, rfl⟩, shared_of_checkUse used listed overlap⟩
  | deinit victim next =>
      have outside := Scan.objectToLoan_eq_ok.mp passed loan listed
      have inside := (loan.place.isStoredIn_ofLocal victim).mpr
        ⟨List.mem_singleton.mp surrendered, direct⟩
      exact absurd (outside.symm.trans inside) Bool.false_ne_true
  | assign | call | goto | ret => simp [Instr.surrendered] at surrendered

/-- While a loan of a local's own storage stays alive, an accepted body takes nothing
away from what is on loan, unless a branch gives up its condition.  The loan is then
a shared one, and the condition can be copied. -/
theorem deinit_of_kept_loan_iff {report : Report} (reported : body.report [] = .ok report)
    (clean : report.violation? = none) {loan : Loan} (known : loan ∈ body.loans)
    (reached : body.Reachable loan.label) (direct : loan.place.hasDeref = false) {label : Nat}
    (kept : body.KeptAlive report.analysis.lifetimes loan label) {instr : Instr}
    (here : body.instr? label = some instr) :
    ∃ events, body.eventsAt label = .ok events ∧ ∀ place,
      Event.deinit place ∈ events ∧ place.overlaps loan.place = true ↔
        (∃ yes no, instr = .branch loan.place.root yes no) ∧ place = .ofLocal loan.place.root ∧
          loan.mutability = .shared ∧ body.isCopyable place = .ok true := by
  have accepted := accepted_of_report reported clean
  have arrived := kept.reachable reached
  have listed := kept.active accepted.toAnalyzed known reached
  rcases accepted.aliasing arrived here with ⟨loc, passed⟩
  rcases uninitialized_eq_ok accepted.uninitialized with ⟨_, _, _, determined, _⟩
  rcases exists_eventsAt accepted.flow determined arrived with ⟨events, asked, _⟩
  refine ⟨events, asked, fun place => ?_⟩
  rw [deinit_mem_events_iff (events_of_eventsAt asked here), mem_losses_iff]
  constructor
  · rintro ⟨⟨movable, moved⟩ | ⟨position, surrendered, rfl⟩, overlap⟩
    · have apart := apart_of_moves passed listed movable moved
      exact absurd (apart.symm.trans overlap) Bool.false_ne_true
    · have rooted := (Place.ofLocal_overlaps_iff position loan.place).mp overlap
      rw [← rooted] at surrendered ⊢
      rcases branch_of_surrendered passed listed direct surrendered with ⟨isBranch, shared, copied⟩
      exact ⟨isBranch, rfl, shared, copied⟩
  · rintro ⟨⟨yes, no, rfl⟩, rfl, _, _⟩
    refine ⟨.inr ⟨loan.place.root, List.mem_singleton.mpr rfl, rfl⟩, ?_⟩
    exact (Place.ofLocal_overlaps_iff _ _).mpr rfl

/-- A body that moves one field of its parameter while the other is on loan. -/
def movedSibling : Body :=
  { name := "sibling"
    program := some boxProgram
    locals := [
      { name := "out", kind := .result, type := .int },
      { name := "x", kind := .parameter, type := .struct "Two" [] },
      { name := "c", type := .struct "Box" [] },
      { name := "p", type := .borrow (.inferred 1) .shared (.struct "Box" []) }]
    code := [
      { instr := some (.assign (.ofLocal 3) (.borrow .shared ((Place.ofLocal 1).field 0)) 1) },
      { instr := some (.assign (.ofLocal 2) (.use ((Place.ofLocal 1).field 1)) 2) },
      { instr := some (.assign (.ofLocal 0) (.use ((Place.ofLocal 3).deref.field 0)) 3) },
      { instr := some .ret }] }

/-- The move leaves the loan alone. -/
theorem movedSibling_keeps_loan :
    ∃ report loan events, movedSibling.report [] = .ok report ∧ report.violation? = none ∧
      loan ∈ movedSibling.loans ∧ movedSibling.KeptAlive report.analysis.lifetimes loan 1 ∧
      movedSibling.eventsAt 1 = .ok events ∧
      Event.deinit ((Place.ofLocal 1).field 1) ∈ events ∧
      ∀ place, Event.deinit place ∈ events → place.overlaps loan.place = false := by
  let loan : Loan :=
    { label := 0, place := (Place.ofLocal 1).field 0, mutability := .shared
      lifetime := .inferred 1 }
  have evaluated : movedSibling.acceptedWith (fun report =>
      report.analysis.lifetimes.isAliveAt loan.lifetime 1) = true := by
    decide +kernel
  rcases exists_report_of_acceptedWith evaluated with ⟨report, reported, clean, alive⟩
  have known : loan ∈ movedSibling.loans := by decide +kernel
  have kept : movedSibling.KeptAlive report.analysis.lifetimes loan 1 :=
    .created ⟨_, rfl, by decide⟩ alive
  rcases deinit_of_kept_loan_iff reported clean known ⟨[], .here⟩ rfl kept rfl with
    ⟨events, asked, lost⟩
  have moved : (movedSibling.eventsAt 1).toOption.any
      (·.contains (.deinit ((Place.ofLocal 1).field 1))) = true := by
    decide +kernel
  refine ⟨report, loan, events, reported, clean, known, kept, asked, ?_, ?_⟩
  · rw [asked] at moved
    simpa [Except.toOption] using moved
  · intro place listed
    rw [Bool.eq_false_iff]
    intro overlap
    rcases ((lost place).mp ⟨listed, overlap⟩).1 with ⟨yes, no, isBranch⟩
    simp at isBranch

/-- A body that branches on a condition while it is on loan. -/
def borrowedCondition : Body :=
  { name := "branch"
    program := some {}
    locals := [
      { name := "out", kind := .result, type := .bool },
      { name := "c", kind := .parameter, type := .bool },
      { name := "p", type := .borrow (.inferred 1) .shared .bool }]
    code := [
      { instr := some (.assign (.ofLocal 2) (.borrow .shared (.ofLocal 1)) 1) },
      { instr := some (.branch 1 2 2) },
      { instr := some (.assign (.ofLocal 0) (.use (Place.ofLocal 2).deref) 3) },
      { instr := some .ret }] }

/-- The body is accepted although the branch gives up what the loan points to. -/
theorem borrowedCondition_given_up :
    ∃ report loan events, borrowedCondition.report [] = .ok report ∧
      report.violation? = none ∧ loan ∈ borrowedCondition.loans ∧
      loan.place.hasDeref = false ∧
      borrowedCondition.KeptAlive report.analysis.lifetimes loan 1 ∧
      borrowedCondition.eventsAt 1 = .ok events ∧ Event.deinit loan.place ∈ events := by
  let loan : Loan :=
    { label := 0, place := .ofLocal 1, mutability := .shared, lifetime := .inferred 1 }
  have evaluated : borrowedCondition.acceptedWith (fun report =>
      report.analysis.lifetimes.isAliveAt loan.lifetime 1) = true := by
    decide +kernel
  rcases exists_report_of_acceptedWith evaluated with ⟨report, reported, clean, alive⟩
  have known : loan ∈ borrowedCondition.loans := by decide +kernel
  exact ⟨report, loan, _, reported, clean, known, rfl, .created ⟨_, rfl, by decide⟩ alive, rfl,
    List.mem_singleton.mpr rfl⟩

end Body
end BorrowChecker
