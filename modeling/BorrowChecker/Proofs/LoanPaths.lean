import BorrowChecker.Proofs.ConsumedLoans

namespace BorrowChecker

/-!
Active loans as a statement about paths.

Nothing is assumed here of the sets of points at which lifetimes are alive; they
need not solve anything.  A loan is active at a label exactly if a path with at
least one step leads there from the borrow that creates the loan, and the
lifetime of the loan is alive at every label of the path after the first.  The
first label is left out: the loan does not exist before its borrow is executed.
-/

@[simp] theorem LifetimeSets.isAlive_label (lifetimes : LifetimeSets) (lifetime : Lifetime)
    (label : Int) :
    lifetimes.isAlive lifetime (.label label) = .ok (lifetimes.isAliveAt lifetime label) := by
  unfold isAlive isAliveAt
  cases lifetimes.set? lifetime <;> rfl

namespace Body

variable {body : Body} {lifetimes : LifetimeSets} {loan : Loan}

/-- A walk of at least one step after whose first label a lifetime stays alive. -/
def AliveWalk (body : Body) (lifetimes : LifetimeSets) (lifetime : Lifetime)
    (start label : Nat) : Prop :=
  ∃ between, Walk body.Edge start (start :: between) label ∧
    ∀ passed ∈ between ++ [label], lifetimes.isAlive lifetime (.label passed) = .ok true

/-- The loan is the one that the instruction at its label creates: its lifetime is
that of the borrow type which the receiving place has. -/
def Lends (body : Body) (loan : Loan) : Prop :=
  ∃ target next mutability pointee,
    body.instr? loan.label = some (.assign target (.borrow loan.mutability loan.place) next) ∧
      body.typeOf target = .ok (.borrow loan.lifetime mutability pointee)

/-- Every borrow of a body is assigned to a place of borrow type. -/
def BorrowsTyped (body : Body) : Prop :=
  ∀ label target mutability place next,
    body.instr? label = some (.assign target (.borrow mutability place) next) →
    ∃ lifetime written pointee, body.typeOf target = .ok (.borrow lifetime written pointee)

/-- A test for `BorrowsTyped`: every borrow creates a loan. -/
def borrowsTyped (body : Body) : Bool :=
  body.labels.all fun label =>
    match body.instr? label with
    | some (.assign _ (.borrow _ _) _) => (body.loanAt? label).isSome
    | _ => true

private theorem borrowsTyped_of_test (tested : body.borrowsTyped = true) : body.BorrowsTyped := by
  intro label target mutability place next here
  have listed : label ∈ body.labels := List.mem_range.mpr (lt_length_of_instr? here)
  have creates := List.all_eq_true.mp tested label listed
  rw [here] at creates
  rcases Option.isSome_iff_exists.mp creates with ⟨loan, created⟩
  rcases loanAt?_eq_some.mp created with ⟨_, other, _, written, pointee, there, isBorrow⟩
  have sameTarget := (Instr.assign.inj (Option.some.inj (there.symm.trans here))).1
  exact ⟨loan.lifetime, written, pointee, sameTarget ▸ isBorrow⟩

theorem mem_loans_iff_lends (loan : Loan) : loan ∈ body.loans ↔ body.Lends loan := by
  rw [mem_loans_iff, loanAt?_eq_some]
  exact and_iff_right rfl

/-! ## Walks -/

theorem AliveWalk.of_edge {lifetime : Lifetime} {start label : Nat} (step : body.Edge start label)
    (alive : lifetimes.isAliveAt lifetime label = true) :
    body.AliveWalk lifetimes lifetime start label := by
  refine ⟨[], .next .here step, ?_⟩
  intro passed listed
  rw [List.mem_singleton.mp listed, LifetimeSets.isAlive_label, alive]

theorem AliveWalk.next {lifetime : Lifetime} {start label following : Nat}
    (walk : body.AliveWalk lifetimes lifetime start label) (step : body.Edge label following)
    (alive : lifetimes.isAliveAt lifetime following = true) :
    body.AliveWalk lifetimes lifetime start following := by
  rcases walk with ⟨between, walk, aliveBetween⟩
  refine ⟨between ++ [label], .next walk step, ?_⟩
  intro passed listed
  rcases List.mem_append.mp listed with earlier | last
  · exact aliveBetween passed earlier
  · rw [List.mem_singleton.mp last, LifetimeSets.isAlive_label, alive]

/-- A walk without executed labels has not left its start. -/
theorem eq_of_walk_nil {edge : Nat → Nat → Prop} {start label : Nat} {labels : List Nat}
    (walk : Walk edge start labels label) (nothing : labels = []) : label = start := by
  cases walk with
  | here => rfl
  | next before step => simp at nothing

private theorem keptAlive_of_walk {labels between : List Nat} {label : Nat}
    (walk : Walk body.Edge loan.label labels label) (executed : labels = loan.label :: between)
    (alive : ∀ passed ∈ between ++ [label], lifetimes.isAliveAt loan.lifetime passed = true) :
    body.KeptAlive lifetimes loan label := by
  induction walk generalizing between with
  | here => simp at executed
  | @next earlier source target before step inductionHypothesis =>
      have aliveHere := alive target (List.mem_append_right _ (List.mem_singleton.mpr rfl))
      cases earlier with
      | nil =>
          rw [eq_of_walk_nil before rfl] at step
          exact .created step aliveHere
      | cons first rest =>
          have parts := List.cons.inj executed
          have keptBefore : body.KeptAlive lifetimes loan source := by
            apply inductionHypothesis (congrArg (· :: rest) parts.1)
            intro passed listed
            rw [← parts.2] at alive
            exact alive passed (List.mem_append_left _ listed)
          exact .next keptBefore step aliveHere

/-- A loan is kept alive up to a label if and only if a walk on which it stays alive
leads there. -/
theorem keptAlive_iff_aliveWalk (label : Nat) :
    body.KeptAlive lifetimes loan label ↔
      body.AliveWalk lifetimes loan.lifetime loan.label label := by
  constructor
  · intro kept
    induction kept with
    | created step alive => exact .of_edge step alive
    | next _ step alive inductionHypothesis => exact inductionHypothesis.next step alive
  · intro path
    rcases path with ⟨between, walk, alive⟩
    refine keptAlive_of_walk walk rfl ?_
    intro passed listed
    have answered := alive passed listed
    rw [LifetimeSets.isAlive_label] at answered
    exact Except.ok.inj answered

/-! ## The list of active loans -/

private theorem loans_increasing (body : Body) :
    body.loans.Pairwise fun first second => first.label < second.label := by
  refine List.Pairwise.filterMap _ ?_ List.pairwise_lt_range
  intro earlier later less first created second createdLater
  rw [(loanAt?_eq_some.mp created).1, (loanAt?_eq_some.mp createdLater).1]
  exact less

theorem activeAt_increasing (body : Body) (flow : Flow) (lifetimes : LifetimeSets) (label : Nat) :
    ((body.activeLoans flow lifetimes).activeAt lifetimes label).Pairwise
      fun first second => first.label < second.label := by
  unfold ActiveLoans.activeAt
  split
  · exact List.Pairwise.nil
  · exact body.loans_increasing.filter _

/-- Active loans are exact along paths.  At every label of a valid body whose borrows
are assigned to places of borrow type, and for any sets of lifetimes, the active
loans are listed by strictly increasing label, each is the one that the borrow at
its label creates, and the loan of a borrow is among them if and only if the
borrow is reachable and some walk of at least one step leads from it to the label,
with the lifetime of the loan alive at every label after the first. -/
theorem active_loans_along_paths (valid : body.IsValid) (typed : body.BorrowsTyped) :
    ∃ flow, body.flow = .ok flow ∧ ∀ (lifetimes : LifetimeSets) (label : Nat),
      ((body.activeLoans flow lifetimes).activeAt lifetimes label).Pairwise
        (fun first second => first.label < second.label) ∧
      (∀ loan ∈ (body.activeLoans flow lifetimes).activeAt lifetimes label, body.Lends loan) ∧
      ∀ created target mutability place next,
        body.instr? created = some (.assign target (.borrow mutability place) next) →
        ∃ lifetime written pointee, body.typeOf target = .ok (.borrow lifetime written pointee) ∧
          ({ label := created, place, mutability, lifetime } ∈
              (body.activeLoans flow lifetimes).activeAt lifetimes label ↔
            body.Reachable created ∧ body.AliveWalk lifetimes lifetime created label) := by
  rcases valid.inOrder with ⟨program, inOrder⟩
  rcases inOrder.exists_flow with ⟨flow, found⟩
  refine ⟨flow, found, fun lifetimes label =>
    ⟨activeAt_increasing body flow lifetimes label, ?_, ?_⟩⟩
  · intro loan active
    exact (mem_loans_iff_lends loan).mp ((mem_activeAt_iff_keptAlive found _ _ _).mp active).1
  · intro created target mutability place next here
    rcases typed created target mutability place next here with
      ⟨lifetime, written, pointee, isBorrow⟩
    refine ⟨lifetime, written, pointee, isBorrow, ?_⟩
    let loan : Loan := { label := created, place, mutability, lifetime }
    have known : loan ∈ body.loans :=
      (mem_loans_iff_lends loan).mpr ⟨target, next, written, pointee, here, isBorrow⟩
    rw [mem_activeAt_iff_keptAlive found, keptAlive_iff_aliveWalk]
    exact and_iff_right known

/-- A loop that borrows the same value again and again. -/
def borrowingLoop : Body :=
  { name := "borrowing"
    program := some (.ofDeclarations [] [])
    locals := [
      { name := "out", kind := .result, type := .unit },
      { name := "flag", kind := .parameter, type := .bool },
      { name := "value", kind := .parameter, type := .int },
      { name := "pointer", type := .borrow (.inferred 1) .shared .int }]
    code := [
      { instr := some (.assign (.ofLocal 3) (.borrow .shared (.ofLocal 2)) 1) },
      { instr := some (.branch 1 2 3) },
      { instr := some (.assign (.ofLocal 3) (.borrow .shared (.ofLocal 2)) 1) },
      { instr := some (.assign (.ofLocal 0) .unit 4) },
      { instr := some .ret }] }

/-- Let the lifetime of the pointer be alive at the test of the loop and behind it,
but not where the loop borrows again.  Then both loans are active behind the loop,
and none is active within. -/
theorem borrowingLoop_loans :
    ∃ flow, borrowingLoop.flow = .ok flow ∧
      let lifetimes : LifetimeSets :=
        { space := borrowingLoop.pointSpace
          sets := [(.inferred 1, { toList := [1, 3], increasing := by decide })] }
      let loan (label : Nat) : Loan :=
        { label, place := .ofLocal 2, mutability := .shared, lifetime := .inferred 1 }
      loan 0 ∈ (borrowingLoop.activeLoans flow lifetimes).activeAt lifetimes 3 ∧
        loan 2 ∈ (borrowingLoop.activeLoans flow lifetimes).activeAt lifetimes 3 ∧
        loan 0 ∉ (borrowingLoop.activeLoans flow lifetimes).activeAt lifetimes 2 := by
  have valid : borrowingLoop.IsValid := rfl
  have typed : borrowingLoop.BorrowsTyped := borrowsTyped_of_test (by decide +kernel)
  rcases active_loans_along_paths valid typed with ⟨flow, found, along⟩
  refine ⟨flow, found, ?_⟩
  intro lifetimes loan
  have toTest : Walk borrowingLoop.Edge 0 [0] 1 := .next .here ⟨_, rfl, by decide⟩
  have intoLoop : Walk borrowingLoop.Edge 0 [0, 1] 2 := .next toTest ⟨_, rfl, by decide⟩
  have behind : Walk borrowingLoop.Edge 0 [0, 1] 3 := .next toTest ⟨_, rfl, by decide⟩
  have again : Walk borrowingLoop.Edge 2 [2, 1] 3 :=
    .next (.next .here ⟨_, rfl, by decide⟩) ⟨_, rfl, by decide⟩
  have alive : ∀ passed ∈ [1] ++ [3],
      lifetimes.isAlive (.inferred 1) (.label (passed : Nat)) = .ok true := by
    have known : ∀ passed ∈ [1] ++ [3],
        lifetimes.isAliveAt (.inferred 1) (passed : Nat) = true := by
      decide
    intro passed listed
    rw [LifetimeSets.isAlive_label, known passed listed]
  have atThree := (along lifetimes 3).2.2
  have atTwo := (along lifetimes 2).2.2
  refine ⟨?_, ?_, ?_⟩
  · rcases atThree 0 _ _ _ _ rfl with ⟨lifetime, _, _, isBorrow, active_iff⟩
    cases isBorrow
    exact active_iff.mpr ⟨⟨[], .here⟩, [1], behind, alive⟩
  · rcases atThree 2 _ _ _ _ rfl with ⟨lifetime, _, _, isBorrow, active_iff⟩
    cases isBorrow
    exact active_iff.mpr ⟨⟨_, intoLoop⟩, [1], again, alive⟩
  · rcases atTwo 0 _ _ _ _ rfl with ⟨lifetime, _, _, isBorrow, active_iff⟩
    cases isBorrow
    intro active
    rcases (active_iff.mp active).2 with ⟨between, _, aliveBetween⟩
    have aliveThere := aliveBetween 2 (List.mem_append_right _ (List.mem_singleton.mpr rfl))
    rw [LifetimeSets.isAlive_label] at aliveThere
    exact absurd (Except.ok.inj aliveThere) (by decide)

end Body
end BorrowChecker
