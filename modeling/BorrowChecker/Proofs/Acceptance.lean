import BorrowChecker.Analysis.Report
import BorrowChecker.Proofs.ControlFlow

namespace BorrowChecker

/-!
What an analysis consists of, and what acceptance means.

A report without a violation says that every family of rules ran through all
reachable labels and objected to nothing.  Both facts are taken apart here once;
theorems about accepted bodies start from the parts.
-/

namespace Body

/-- The parts of the analysis of a body. -/
structure Analyzed (body : Body) (analysis : Analysis) : Prop where
  valid : body.IsValid
  sameBody : analysis.body = body
  flow : body.flow = .ok analysis.flow
  graph : body.outlivesGraph = .ok analysis.graph
  liveness : analysis.liveness = body.liveness analysis.flow
  lifetimes : ∃ requirements, body.requirements analysis.liveness = .ok requirements ∧
    analysis.graph.solve requirements body.pointSpace = .ok analysis.lifetimes
  uninitialized : body.uninitialized analysis.flow = .ok analysis.uninitialized
  loans : analysis.loans = body.activeLoans analysis.flow analysis.lifetimes

private theorem liveLocals_eq_ok {body : Body} {flow : Flow} {liveness : Liveness} :
    body.liveLocals flow = .ok liveness ↔
      (∃ read, flow.reachable.reverse.mapM body.defsUsesAt = .ok read) ∧
        liveness = body.liveness flow := by
  unfold liveLocals
  rw [bind_eq_ok, ← exists_and_right]
  simp [pure, Except.pure, eq_comm]

theorem trackLoans_eq_ok {body : Body} {flow : Flow} {lifetimes : LifetimeSets}
    {loans : ActiveLoans} :
    body.trackLoans flow lifetimes = .ok loans ↔
      (∃ created, flow.discovery.mapM body.loanAt = .ok created) ∧
        loans = body.activeLoans flow lifetimes := by
  unfold trackLoans
  rw [bind_eq_ok, ← exists_and_right]
  simp [pure, Except.pure, eq_comm]

theorem analyzed_of_analyze {body : Body} {analysis : Analysis}
    (analyzed : body.analyze = .ok analysis) : body.Analyzed analysis := by
  unfold analyze at analyzed
  split at analyzed
  · simp at analyzed
  · rename_i valid
    split at analyzed
    · simp at analyzed
    · rename_i result computed
      rcases Except.ok.inj analyzed with rfl
      unfold analyzeValid at computed
      rcases bind_eq_ok.mp computed with ⟨flow, hasFlow, computed⟩
      rcases bind_eq_ok.mp computed with ⟨graph, hasGraph, computed⟩
      rcases bind_eq_ok.mp computed with ⟨liveness, hasLiveness, computed⟩
      rcases bind_eq_ok.mp computed with ⟨requirements, required, computed⟩
      rcases bind_eq_ok.mp computed with ⟨lifetimes, solved, computed⟩
      rcases bind_eq_ok.mp computed with ⟨uninitialized, hasUninitialized, computed⟩
      rcases bind_eq_ok.mp computed with ⟨loans, tracked, computed⟩
      rcases Except.ok.inj computed with rfl
      exact
        { valid
          sameBody := rfl
          flow := hasFlow
          graph := hasGraph
          liveness := (liveLocals_eq_ok.mp hasLiveness).2
          lifetimes := ⟨requirements, required, solved⟩
          uninitialized := hasUninitialized
          loans := (trackLoans_eq_ok.mp tracked).2 }

/-- A valid body has an analysis as soon as its parts exist. -/
theorem exists_analyze_of_parts {body : Body} {flow : Flow} {graph : OutlivesGraph}
    {liveness : Liveness} {requirements : Requirements} {lifetimes : LifetimeSets}
    {uninitialized : Uninitialized} {loans : ActiveLoans} (valid : body.IsValid)
    (hasFlow : body.flow = .ok flow) (hasGraph : body.outlivesGraph = .ok graph)
    (live : body.liveLocals flow = .ok liveness)
    (required : body.requirements liveness = .ok requirements)
    (solved : graph.solve requirements body.pointSpace = .ok lifetimes)
    (computed : body.uninitialized flow = .ok uninitialized)
    (tracked : body.trackLoans flow lifetimes = .ok loans) :
    ∃ analysis, body.analyze = .ok analysis ∧ analysis.uninitialized = uninitialized := by
  have passed : body.validate = .ok () := valid
  have parts : ∃ analysis, body.analyzeValid = .ok analysis ∧
      analysis.uninitialized = uninitialized := by
    simp only [analyzeValid, bind_eq_ok]
    exact ⟨_, ⟨flow, hasFlow, graph, hasGraph, liveness, live, requirements, required, lifetimes,
      solved, uninitialized, computed, loans, tracked, rfl⟩, rfl⟩
  rcases parts with ⟨analysis, analyzed, same⟩
  refine ⟨analysis, ?_, same⟩
  unfold analyze
  rw [passed, analyzed]

end Body

namespace Analysis

theorem scan_of_firstViolation {analysis : Analysis} {family : Family}
    (silent : analysis.firstViolation family = .ok none) : analysis.scan family = .ok () := by
  unfold firstViolation at silent
  split at silent
  · assumption
  · simp at silent
  · rcases bind_eq_ok.mp silent with ⟨message, _, worded⟩
    simp [pure, Except.pure] at worded

theorem firstViolation_of_passed {analysis : Analysis} {family : Family}
    (passed : analysis.scan family = .ok ()) : analysis.firstViolation family = .ok none := by
  unfold firstViolation
  rw [passed]

/-- Families that were applied without finding a violation passed their scan. -/
theorem scan_of_applyFamilies {analysis : Analysis} {families : List Family}
    {outcomes : List (Family × Outcome)}
    (applied : analysis.applyFamilies [] families = .ok outcomes)
    (clean : outcomes.findSome? (fun outcome => outcome.2.violation?) = none)
    {family : Family} (listed : family ∈ families) : analysis.scan family = .ok () := by
  induction families generalizing outcomes with
  | nil => simp at listed
  | cons first rest inductionHypothesis =>
      unfold applyFamilies at applied
      simp only [List.contains_nil, Bool.false_eq_true, ↓reduceIte] at applied
      rcases bind_eq_ok.mp applied with ⟨found, looked, applied⟩
      cases found with
      | some violation =>
          rcases Except.ok.inj applied with rfl
          simp [Outcome.violation?] at clean
      | none =>
          rcases bind_eq_ok.mp applied with ⟨others, appliedRest, applied⟩
          rcases Except.ok.inj applied with rfl
          rcases List.mem_cons.mp listed with rfl | later
          · exact scan_of_firstViolation looked
          · exact inductionHypothesis appliedRest
              (by simpa [List.findSome?_cons, Outcome.violation?] using clean) later

end Analysis

namespace Body

/-- The parts of a report that found no violation although every family was
applied. -/
structure Accepted (body : Body) (analysis : Analysis) : Prop extends
    body.Analyzed analysis where
  passed : ∀ family, analysis.scan family = .ok ()

theorem accepted_of_report {body : Body} {report : Report}
    (reported : body.report [] = .ok report) (clean : report.violation? = none) :
    body.Accepted report.analysis := by
  unfold Body.report at reported
  split at reported
  · simp at reported
  · rename_i analysis analyzed
    split at reported
    · simp at reported
    · rename_i outcomes applied
      rcases Except.ok.inj reported with rfl
      refine { analyzed_of_analyze analyzed with passed := fun family => ?_ }
      refine Analysis.scan_of_applyFamilies applied clean ?_
      cases family <;> decide

theorem analyze_of_report {body : Body} {disabled : List String} {report : Report}
    (reported : body.report disabled = .ok report) : body.analyze = .ok report.analysis := by
  unfold Body.report at reported
  split at reported
  · simp at reported
  · split at reported
    · simp at reported
    · rcases Except.ok.inj reported with rfl
      assumption

theorem check_of_report {body : Body} {disabled : List String} {report : Report}
    (reported : body.report disabled = .ok report) :
    body.check disabled = .ok (report.violation?.map .violation) := by
  unfold check
  rw [reported]

/-- A body that is accepted has an analysis to which no family objects. -/
theorem silent_of_report {body : Body} {report : Report}
    (reported : body.report [] = .ok report) (clean : report.violation? = none) :
    body.analyze = .ok report.analysis ∧
      ∀ family, report.analysis.firstViolation family = .ok none := by
  have accepted := accepted_of_report reported clean
  refine ⟨analyze_of_report reported, ?_⟩
  intro family
  exact Analysis.firstViolation_of_passed (accepted.passed family)

/-- Whether a body is accepted with a report that passes a test. -/
def acceptedWith (body : Body) (test : Report → Bool) : Bool :=
  match body.report [] with
  | .ok report => report.violation?.isNone && test report
  | .error _ => false

theorem exists_report_of_acceptedWith {body : Body} {test : Report → Bool}
    (accepted : body.acceptedWith test = true) :
    ∃ report, body.report [] = .ok report ∧ report.violation? = none ∧ test report = true := by
  unfold acceptedWith at accepted
  split at accepted
  · rename_i report reported
    rw [Bool.and_eq_true, Option.isNone_iff_eq_none] at accepted
    exact ⟨report, reported, accepted⟩
  · simp at accepted

/-- A program with a structure that is moved, and one that holds two of them. -/
def boxProgram : Program :=
  .ofDeclarations
    [{ name := "Box", fields := [{ name := "value", type := .int }] },
     { name := "Two"
       fields := [{ name := "left", type := .struct "Box" [] },
                  { name := "right", type := .struct "Box" [] }] }] []

/-- A scan that objects to nothing applied its rule at every label. -/
theorem scan_eq_ok {body : Body} {labels : List Nat} {rule : Nat → Loc → Instr → Scan Unit}
    (passed : body.scan labels rule = .ok ()) {label : Nat} (listed : label ∈ labels)
    {instr : Instr} (here : body.instr? label = some instr) :
    ∃ loc, rule label loc instr = .ok () := by
  have atLabel := forM_eq_ok.mp passed label listed
  rcases exists_loc_of_instr? here with ⟨loc, found⟩
  rw [found] at atLabel
  exact ⟨loc, atLabel⟩

namespace Accepted

variable {body : Body} {analysis : Analysis}

/-- The aliasing rule objects to nothing at a reachable label. -/
theorem aliasing (accepted : body.Accepted analysis) {label : Nat}
    (reached : body.Reachable label) {instr : Instr} (here : body.instr? label = some instr) :
    ∃ loc, body.checkActive loc (analysis.loansAt label) instr = .ok () := by
  have passed := accepted.passed .aliasing
  simp only [Analysis.scan, accepted.sameBody] at passed
  exact scan_eq_ok passed ((Flow.mem_reachable_iff accepted.flow label).mpr reached) here

end Accepted
end Body
end BorrowChecker
