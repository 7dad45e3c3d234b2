import BorrowChecker.Proofs.AnalysisParts
import BorrowChecker.Proofs.Complaints
import BorrowChecker.Proofs.SplitAnalyses

namespace BorrowChecker

/-!
Splitting an edge does not change the verdict.

Every rule looks at an old label with the same loans and the same uninitialized
places as before, and it has nothing to object to at the new label, which comes last
in its scan.  So each family stops where it stopped before, with the same complaint.
The wording of a complaint refers to the code only through the locations of loans,
and these belong to old labels.
-/

/-- The verdict depends on the first violations of the families only. -/
theorem Analysis.applyFamilies_congr {first second : Analysis}
    (same : ∀ family, second.firstViolation family = first.firstViolation family)
    (disabled : List String) (families : List Family) :
    second.applyFamilies disabled families = first.applyFamilies disabled families := by
  induction families with
  | nil => rfl
  | cons family rest inductionHypothesis =>
      unfold applyFamilies
      rw [same, inductionHypothesis]

theorem Body.check_congr {first second : Body} {before after : Analysis}
    (analyzed : first.analyze = .ok before) (analyzedAfter : second.analyze = .ok after)
    (same : ∀ family, after.firstViolation family = before.firstViolation family)
    (disabled : List String) : second.check disabled = first.check disabled := by
  unfold check report
  rw [analyzed, analyzedAfter]
  simp only [Analysis.applyFamilies_congr same]
  cases before.applyFamilies disabled Family.all <;> rfl

/-- In a body with other code, a family that stops in the same way finds the same
violation, provided that the active loans are described in the same way. -/
theorem Body.Analyzed.firstViolation_congr {first second : Body} {before after : Analysis}
    (analyzed : first.Analyzed before) (analyzedAfter : second.Analyzed after)
    (frame : ∃ code, second = first.withCode code) {family : Family}
    (sameScan : after.scan family = before.scan family)
    (sameLoan : ∀ label, ∀ loan ∈ before.loansAt label,
      second.describeLoan loan = first.describeLoan loan) :
    after.firstViolation family = before.firstViolation family := by
  unfold Analysis.firstViolation
  rw [sameScan, analyzed.sameBody, analyzedAfter.sameBody]
  cases stopped : before.scan family with
  | ok value => rfl
  | error stop =>
      cases stop with
      | fault fault => rfl
      | complaint loc complaint =>
          have described : ∀ loan, complaint.loan? = some loan →
              second.describeLoan loan = first.describeLoan loan := by
            intro loan named
            rcases analyzed.stops_of_scan stopped with
              ⟨label, instr, _, _, _, objected⟩ | ⟨long, short, declared, isMissing⟩
            · cases objected with
              | objection _ active => exact sameLoan label loan (active loan named)
            · rcases Stop.complaint.inj isMissing with ⟨_, rfl⟩
              simp [Complaint.loan?] at named
          have sameWord : second.word complaint = first.word complaint := by
            apply word_congr
            case sameLoan => exact described
            all_goals
              rcases frame with ⟨code, rfl⟩
              rfl
          simp only [sameWord]

/-- The initialization rule at a label depends on the uninitialized places there only. -/
theorem Body.checkInitializedAt_congr {first second : Uninitialized} {label : Nat}
    (same : second.placesAt label = first.placesAt label) (body : Body) (loc : Loc)
    (instr : Instr) :
    body.checkInitializedAt second label loc instr =
      body.checkInitializedAt first label loc instr := by
  have sameUninit : second.isUninit label = first.isUninit label := by
    funext place
    rw [Uninitialized.isUninit, same, ← Uninitialized.isUninit]
  have sameParts : second.notFullyInit label = first.notFullyInit label := by
    funext place
    rw [Uninitialized.notFullyInit, same, ← Uninitialized.notFullyInit]
  have sameTarget : checkTarget second label = checkTarget first label := by
    funext loc target
    rw [checkTarget, sameUninit, sameParts, ← checkTarget]
  rw [checkInitializedAt, sameTarget, sameParts, ← checkInitializedAt]

namespace Body
namespace IsSplit

variable {body longer : Body} {program : Program} {source target : Nat}

/-- The longer body has an analysis, and it finds the same places uninitialized at
the old labels. -/
theorem exists_analysis {analysis : Analysis} (split : body.IsSplit source target longer)
    (inOrderLater : longer.InOrder program) (analyzed : body.Analyzed analysis) :
    ∃ later, longer.analyze = .ok later ∧ ∀ label, label ≠ body.code.length →
      later.uninitialized.placesAt label = analysis.uninitialized.placesAt label := by
  rcases analyzed.valid.inOrder with ⟨_, inOrder⟩
  rcases inOrderLater.exists_flow with ⟨laterFlow, foundLater⟩
  rcases split.exists_uninitialized inOrder analyzed.flow foundLater analyzed.uninitialized with
    ⟨uninitialized, computed, samePlaces⟩
  rcases exists_analyze inOrderLater.isValid foundLater
    (split.outlivesGraph_eq.trans analyzed.graph) computed with ⟨later, analyzedLater, rfl⟩
  exact ⟨later, analyzedLater, samePlaces⟩

/-- The new label comes last in a scan, if it is scanned at all. -/
theorem reachable_eq {flow laterFlow : Flow} (split : body.IsSplit source target longer)
    (inOrder : body.InOrder program) (found : body.flow = .ok flow)
    (foundLater : longer.flow = .ok laterFlow) :
    ∃ rest, laterFlow.reachable = flow.reachable ++ rest ∧
      ∀ label ∈ rest, label = body.code.length := by
  have sameOld : ∀ label ∈ List.range body.code.length,
      laterFlow.discovery.contains label = flow.discovery.contains label := by
    intro label listed
    have old := Nat.ne_of_lt (List.mem_range.mp listed)
    rw [Bool.eq_iff_iff, List.contains_iff_mem, List.contains_iff_mem,
      Flow.mem_discovery_iff foundLater, Flow.mem_discovery_iff found,
      split.reachable_old_iff inOrder old]
  refine ⟨[body.code.length].filter laterFlow.discovery.contains, ?_, ?_⟩
  · unfold Flow.reachable Flow.labels
    rw [Flow.size_eq foundLater, Flow.size_eq found, split.length, List.range_succ,
      List.filter_append, List.filter_congr sameOld]
  · intro label listed
    exact List.mem_singleton.mp (List.mem_filter.mp listed).1

/-- A rule that does not depend on jumps treats the old labels as before. -/
theorem scan_old_eq (split : body.IsSplit source target longer) (inOrder : body.InOrder program)
    {labels : List Nat} (old : ∀ label ∈ labels, label < body.code.length)
    {rule laterRule : Nat → Loc → Instr → Scan Unit}
    (indifferent : ∀ label loc instr, rule label loc instr.withoutJumps = rule label loc instr)
    (sameRule : ∀ label < body.code.length, laterRule label = rule label) :
    longer.scan labels laterRule = body.scan labels rule := by
  apply forM_congr
  intro label listed
  have below := old label listed
  have alike := split.stmt_old below
  rcases inOrder.exists_instr below with ⟨instr, here⟩
  rcases split.exists_instr here with ⟨other, otherHere, sameInstr⟩
  rcases exists_loc_of_instr? here with ⟨loc, there⟩
  rcases exists_loc_of_instr? otherHere with ⟨otherLoc, otherThere⟩
  rw [there, otherThere, Option.map_some, Option.map_some, Option.some.injEq] at alike
  have sameLoc : otherLoc = loc := (Stmt.mk.inj alike).2
  rw [there, otherThere, sameLoc, sameRule label below]
  simp only
  rw [← indifferent, sameInstr, indifferent]

/-- A rule that also has nothing against passing control on comes to the same
conclusion. -/
theorem scan_eq {flow laterFlow : Flow} (split : body.IsSplit source target longer)
    (inOrder : body.InOrder program) (found : body.flow = .ok flow)
    (foundLater : longer.flow = .ok laterFlow) {rule laterRule : Nat → Loc → Instr → Scan Unit}
    (indifferent : ∀ label loc instr, rule label loc instr.withoutJumps = rule label loc instr)
    (sameRule : ∀ label < body.code.length, laterRule label = rule label)
    (silent : ∀ label loc next, laterRule label loc (.goto next) = .ok ()) :
    longer.scan laterFlow.reachable laterRule = body.scan flow.reachable rule := by
  rcases split.reachable_eq inOrder found foundLater with ⟨rest, reachable, onlyNew⟩
  rcases split.instr_new with ⟨next, atNew⟩
  have passedRest : longer.scan rest laterRule = .ok () := by
    apply forM_eq_ok.mpr
    intro label listed
    rcases exists_loc_of_instr? atNew with ⟨loc, there⟩
    rw [onlyNew label listed, there]
    exact silent _ loc next
  have old : ∀ label ∈ flow.reachable, label < body.code.length := by
    intro label listed
    rw [← Flow.size_eq found]
    exact Flow.lt_size_of_reachable found ((Flow.mem_reachable_iff found label).mp listed)
  have sameOld := split.scan_old_eq inOrder old indifferent sameRule
  unfold scan at passedRest sameOld ⊢
  rw [reachable]
  simp only [List.forM_eq_forM] at passedRest sameOld ⊢
  rw [List.forM_append, sameOld, passedRest]
  exact bind_pure _

/-! ## Complaints -/

theorem describeLoan_eq (split : body.IsSplit source target longer) {loan : Loan}
    (below : loan.label < body.code.length) :
    longer.describeLoan loan = body.describeLoan loan := by
  have alike := split.stmt_old below
  have there := List.getElem?_eq_getElem below
  rw [there, Option.map_some] at alike
  rcases Option.map_eq_some_iff.mp alike with ⟨other, otherThere, same⟩
  have sameLoc : other.loc = (body.code.get ⟨loan.label, below⟩).loc := (Stmt.mk.inj same).2
  have found : requireAt body.code (loan.label : Int) = .ok (body.code.get ⟨loan.label, below⟩) :=
    requireAt_natCast.mpr there
  have foundLater : requireAt longer.code (loan.label : Int) = .ok other :=
    requireAt_natCast.mpr otherThere
  have samePlace : longer.describe loan.place = body.describe loan.place := by
    rcases split.frame with ⟨code, rfl⟩
    exact body.describe_withCode code loan.place
  unfold describeLoan
  rw [samePlace, found, foundLater]
  simp only [bind, Except.bind, sameLoc]

section Analyses

variable {analysis later : Analysis} (split : body.IsSplit source target longer)
  (analyzed : body.Analyzed analysis) (analyzedLater : longer.Analyzed later)
  (samePlaces : ∀ label, label ≠ body.code.length →
    later.uninitialized.placesAt label = analysis.uninitialized.placesAt label)

include split analyzed analyzedLater samePlaces

/-- Every family stops as it did before. -/
theorem scan_family_eq (family : Family) : later.scan family = analysis.scan family := by
  rcases analyzed.valid.inOrder with ⟨program, inOrder⟩
  rcases split.frame with ⟨code, isFrame⟩
  unfold Analysis.scan
  rw [analyzed.sameBody, analyzedLater.sameBody]
  cases family with
  | initialization =>
      refine split.scan_eq inOrder analyzed.flow analyzedLater.flow
        (fun label loc instr => body.checkInitializedAt_withoutJumps instr _ label loc) ?_ ?_
      · intro label below
        funext loc instr
        rw [isFrame, checkInitializedAt_withCode]
        exact checkInitializedAt_congr (samePlaces label (Nat.ne_of_lt below)) body loc instr
      · intro label loc next
        rfl
  | mutability =>
      refine split.scan_eq inOrder analyzed.flow analyzedLater.flow
        (fun label loc instr => body.checkWritableAt_withoutJumps instr label loc) ?_ ?_
      · intro label _
        funext loc instr
        rw [isFrame, checkWritableAt_withCode]
      · intro label loc next
        rfl
  | lifetimes =>
      simp only
      rw [analyzed.checkSignature_eq, analyzedLater.checkSignature_eq]
      simp only [split.aliveCallers_eq analyzed analyzedLater]
      rw [isFrame]
      rfl
  | aliasing =>
      refine split.scan_eq inOrder analyzed.flow analyzedLater.flow
        (fun label loc instr => body.checkActive_withoutJumps instr loc _) ?_ ?_
      · intro label below
        funext loc instr
        have sameLoans := split.loansAt_eq analyzed analyzedLater below
        unfold Analysis.loansAt at sameLoans
        rw [isFrame]
        simp only [checkAliasingAt, checkActive_withCode, sameLoans]
      · intro label loc next
        rfl

/-- Every family finds the violation that it found before. -/
theorem firstViolation_eq (family : Family) :
    later.firstViolation family = analysis.firstViolation family := by
  apply analyzed.firstViolation_congr analyzedLater split.frame
    (split.scan_family_eq analyzed analyzedLater samePlaces family)
  intro label loan active
  have listed := ((analyzed.mem_loansAt_iff loan label).mp active).1
  rcases loanAt?_eq_some.mp ((mem_loans_iff loan).mp listed) with ⟨_, _, _, _, _, created, _⟩
  exact split.describeLoan_eq (lt_length_of_instr? created)

end Analyses
end IsSplit

/-- Leading one way of leaving an instruction over a new label, which only passes
control on, does not change what is reported about a body, whichever families of
rules are disabled.  The location of the new label does not matter. -/
theorem check_splitEdge {body : Body} {analysis : Analysis} (analyzed : body.analyze = .ok analysis)
    {source slot : Nat} {instr : Instr} {target : Int} (here : body.instr? source = some instr)
    (jump : instr.successors[slot]? = some target) (loc : Loc) (disabled : List String) :
    (∃ later, (body.splitEdge source slot target loc).analyze = .ok later) ∧
      (body.splitEdge source slot target loc).check disabled = body.check disabled := by
  have parts := analyzed_of_analyze analyzed
  rcases parts.valid.inOrder with ⟨program, inOrder⟩
  rcases (inRange_iff _ _).mp ((inOrder.instrInOrder here).jumps target (List.mem_of_getElem? jump))
    with ⟨label, rfl, _⟩
  have split := isSplit_splitEdge inOrder loc here jump
  rcases split.exists_analysis (inOrder_splitEdge inOrder loc here jump) parts with
    ⟨later, analyzedLater, samePlaces⟩
  refine ⟨⟨later, analyzedLater⟩, check_congr analyzed analyzedLater ?_ disabled⟩
  exact split.firstViolation_eq parts (analyzed_of_analyze analyzedLater) samePlaces

/-- A body that moves a value while it is mutably borrowed, behind a branch whose two
ways lead to the same label. -/
def conflictBehindBranch : Body :=
  { name := "conflict"
    program := some boxProgram
    locals := [
      { name := "out", kind := .result, type := .unit },
      { name := "flag", kind := .parameter, type := .bool },
      { name := "box", kind := .parameter, type := .struct "Box" [] },
      { name := "ref", type := .borrow { name := "r" } .unique (.struct "Box" []) },
      { name := "moved", type := .struct "Box" [] },
      { name := "last", type := .borrow { name := "r" } .unique (.struct "Box" []) }]
    code := [
      { instr := some (.assign (.ofLocal 3) (.borrow .unique (.ofLocal 2)) 1)
        loc := { line := 1 } },
      { instr := some (.branch 1 2 2), loc := { line := 2 } },
      { instr := some (.assign (.ofLocal 4) (.use (.ofLocal 2)) 3), loc := { line := 3 } },
      { instr := some (.assign (.ofLocal 5) (.use (.ofLocal 3)) 4), loc := { line := 4 } },
      { instr := some (.assign (.ofLocal 0) .unit 5), loc := { line := 5 } },
      { instr := some .ret, loc := { line := 6 } },
      { instr := some (.goto 2), loc := { line := 7 } }] }

theorem conflictBehindBranch_split :
    ∃ violation, conflictBehindBranch.check [] = .ok (some (.violation violation)) ∧
      violation.kind = .useWhileBorrowed ∧ violation.loc = { line := 3 } ∧
      (conflictBehindBranch.splitEdge 1 1 2 { line := 9 }).check [] =
        .ok (some (.violation violation)) := by
  have evaluated : ((conflictBehindBranch.report []).toOption.bind fun report =>
      report.violation?.map fun violation => (violation.kind, violation.loc)) =
        some (.useWhileBorrowed, { line := 3 }) := by
    decide +kernel
  rcases Option.bind_eq_some_iff.mp evaluated with ⟨report, found, evaluated⟩
  rcases Option.map_eq_some_iff.mp evaluated with ⟨violation, isViolation, parts⟩
  rcases Prod.mk.inj parts with ⟨kind, loc⟩
  have reported := toOption_eq_some.mp found
  have checked : conflictBehindBranch.check [] = .ok (some (.violation violation)) := by
    rw [check_of_report reported, isViolation, Option.map_some]
  have here : conflictBehindBranch.instr? 1 = some (.branch 1 2 2) := rfl
  have jump : (Instr.branch 1 2 2).successors[1]? = some 2 := rfl
  have unchanged :=
    (check_splitEdge (analyze_of_report reported) here jump { line := 9 } []).2
  exact ⟨violation, checked, kind, loc, unchanged.trans checked⟩

end Body
end BorrowChecker
