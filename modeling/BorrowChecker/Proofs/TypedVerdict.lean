import BorrowChecker.Analysis.Transcript
import BorrowChecker.Proofs.AnalysisParts
import BorrowChecker.Proofs.Complaints
import BorrowChecker.Proofs.SharedReferences
import BorrowChecker.Proofs.TypedBodies

namespace BorrowChecker

/-!
The verdict on a well-typed body.

A rule asks questions about places of the instruction it looks at, and words its
complaint with the names of such places, of places they are reached through, and of
active loans.  In a well-typed body all of these have types, and a place with a type
can be described: each field on its path is a declared one.  Checking the body
therefore ends with a verdict, whichever families of rules are applied, and so does
logging what was found.
-/

namespace Body

variable {body : Body} {program : Program}

/-! ## Names of places -/

private theorem exists_fieldName {parent : Place} {index : Int}
    (typed : ∃ type, body.typeOf (parent.field index) = .ok type) :
    ∃ name, body.fieldName parent index = .ok name := by
  rcases exists_fieldAt typed with ⟨decl, field, found, there⟩
  exact ⟨field.name, bind_eq_ok.mpr ⟨decl, found,
    bind_eq_ok.mpr ⟨field, requireAt_eq_ok.mpr there, rfl⟩⟩⟩

/-- A place that a typed place is reached through has a type. -/
theorem exists_typeOf_of_isWithin {place outer : Place} (inside : place.isWithin outer = true)
    (typed : ∃ type, body.typeOf place = .ok type) : ∃ type, body.typeOf outer = .ok type :=
  exists_typeOf_of_mem_lineage ((Place.mem_lineage_iff place outer).mpr inside) typed

/-- The rest of the path of a typed place can be rendered from any place on it. -/
theorem exists_renderPath {origin : Place} {path : List Step}
    (typed : ∃ type, body.typeOf { origin with path := origin.path ++ path } = .ok type)
    (afterDeref : Bool) (rendered : String) :
    ∃ text, Place.renderPath body.fieldName origin afterDeref rendered path = .ok text := by
  induction path generalizing origin afterDeref rendered with
  | nil => exact ⟨rendered, rfl⟩
  | cons step rest inductionHypothesis =>
      have further : ∃ type, body.typeOf
          { origin.extend step with path := (origin.extend step).path ++ rest } = .ok type := by
        simpa [Place.extend] using typed
      cases step with
      | deref => exact inductionHypothesis further true ("*" ++ rendered)
      | field index =>
          have onTheWay : Place.isWithin
              { origin.field index with path := (origin.field index).path ++ rest }
              (origin.field index) = true :=
            (Place.isWithin_iff _ _).mpr ⟨rfl, List.prefix_append _ _⟩
          rcases exists_fieldName (exists_typeOf_of_isWithin onTheWay further) with ⟨name, named⟩
          rcases inductionHypothesis further false
            ((if afterDeref then "(" ++ rendered ++ ")" else rendered) ++ "." ++ name) with
            ⟨text, rest⟩
          exact ⟨text, bind_eq_ok.mpr ⟨name, named, rest⟩⟩

theorem exists_describe {place : Place} (typed : ∃ type, body.typeOf place = .ok type) :
    ∃ text, body.describe place = .ok text := by
  have rooted : ∃ entry, requireAt body.locals place.root = .ok entry := by
    rcases typed with ⟨type, typed⟩
    rcases bind_eq_ok.mp typed with ⟨rootType, rooted, _⟩
    rcases localType_eq_ok.mp rooted with ⟨entry, there, _⟩
    exact ⟨entry, requireAt_eq_ok.mpr there⟩
  rcases rooted with ⟨entry, there⟩
  have whole : ∃ type, body.typeOf { Place.ofLocal place.root with
      path := (Place.ofLocal place.root).path ++ place.path } = .ok type := typed
  rcases exists_renderPath whole false entry.name with ⟨text, rendered⟩
  exact ⟨text, bind_eq_ok.mpr ⟨entry, there, rendered⟩⟩

/-- A complaint can be put into words if what it names can be described. -/
theorem exists_word {complaint : Complaint}
    (places : ∀ place ∈ complaint.places, ∃ text, body.describe place = .ok text)
    (loans : ∀ loan, complaint.loan? = some loan → ∃ text, body.describeLoan loan = .ok text) :
    ∃ text, body.word complaint = .ok text := by
  cases complaint with
  | missingOutlives long short declared => exact ⟨_, rfl⟩
  | useOfUninit place | mutBorrowOfShared place | sharedWrite place | moveOutOfBorrow place =>
      rcases places place List.mem_cons_self with ⟨text, described⟩
      exact ⟨_, bind_eq_ok.mpr ⟨text, described, rfl⟩⟩
  | writeIntoUninit target outer | writeThroughUninit target outer =>
      rcases places target List.mem_cons_self with ⟨text, described⟩
      rcases places outer (List.mem_cons_of_mem _ List.mem_cons_self) with
        ⟨outerText, outerDescribed⟩
      exact ⟨_, bind_eq_ok.mpr ⟨text, described,
        bind_eq_ok.mpr ⟨outerText, outerDescribed, rfl⟩⟩⟩
  | useWhileBorrowed place loan | borrowConflict place _ loan | assignBorrowed place loan
  | callDestBorrowed place loan | deinitBorrowed place loan | returnBorrowedParam place loan =>
      rcases places _ List.mem_cons_self with ⟨text, described⟩
      rcases loans loan rfl with ⟨loanText, loanDescribed⟩
      exact ⟨_, bind_eq_ok.mpr ⟨text, described, bind_eq_ok.mpr ⟨loanText, loanDescribed, rfl⟩⟩⟩

/-! ## Rules -/

/-- An instruction mentions places in the code and whole locals. -/
theorem InOrder.mentioned_cases {known : Program} (inOrder : body.InOrder known) {label : Nat}
    {instr : Instr} (here : body.instr? label = some instr) {place : Place}
    (mentions : place ∈ body.mentioned instr) :
    body.InCode place ∨ ∃ position < body.locals.length, place = .ofLocal (position : Nat) := by
  have below {kind : LocalKind} {position : Nat} (listed : position ∈ body.localsOfKind kind) :
      position < body.locals.length :=
    List.mem_range.mp (List.mem_filter.mp listed).1
  unfold mentioned reads at mentions
  simp only [List.mem_append] at mentions
  rcases mentions with ((inCode | operand | result) | discarded) | parameter
  · exact .inl ⟨label, instr, here, inCode⟩
  · exact .inl ⟨label, instr, here, List.mem_append_left _ operand⟩
  · split at result
    · rcases List.mem_map.mp result with ⟨position, isResult, rfl⟩
      exact .inr ⟨position, below (List.mem_of_mem_head? (Option.mem_toList.mp isResult)), rfl⟩
    · simp at result
  · rcases List.mem_map.mp discarded with ⟨defined, defines, rfl⟩
    rcases (inRange_iff _ _).mp ((inOrder.instrInOrder here).defs_inRange defines) with
      ⟨position, rfl, inside⟩
    exact .inr ⟨position, inside, rfl⟩
  · rcases List.mem_map.mp parameter with ⟨position, isParameter, rfl⟩
    exact .inr ⟨position, below isParameter, rfl⟩

namespace WellTyped

/-- Everything that an instruction mentions has a type. -/
theorem exists_typeOf_of_mentioned (wellTyped : body.WellTyped program) {known : Program}
    (inOrder : body.InOrder known) {label : Nat} {instr : Instr}
    (here : body.instr? label = some instr) {place : Place}
    (mentions : place ∈ body.mentioned instr) : ∃ type, body.typeOf place = .ok type := by
  rcases inOrder.mentioned_cases here mentions with inCode | whole
  · exact wellTyped.places place inCode
  · rcases whole with ⟨position, below, rfl⟩
    rw [typeOf_ofLocal]
    exact exists_localType ((inRange_iff _ _).mpr ⟨position, rfl, below⟩)

private theorem exists_describeLoan (wellTyped : body.WellTyped program) {loan : Loan}
    (known : loan ∈ body.loans) : ∃ text, body.describeLoan loan = .ok text := by
  rcases loanAt?_eq_some.mp ((mem_loans_iff loan).mp known) with ⟨_, target, next, _, _, here, _⟩
  have inCode : body.InCode loan.place :=
    ⟨loan.label, _, here, List.mem_append_left _ List.mem_cons_self⟩
  rcases exists_describe (wellTyped.places loan.place inCode) with ⟨text, described⟩
  rcases instr?_eq_some.mp here with ⟨stmt, there, _⟩
  have located : requireAt body.code loan.label = .ok stmt :=
    requireAt_natCast.mpr there
  exact ⟨_, bind_eq_ok.mpr ⟨text, described, bind_eq_ok.mpr ⟨stmt, located, rfl⟩⟩⟩

/-- A rule stops at an instruction only to object, and the objection has a wording. -/
theorem exists_complaint_of_stops (wellTyped : body.WellTyped program) {known : Program}
    (inOrder : body.InOrder known) {label : Nat} {instr : Instr}
    (here : body.instr? label = some instr) {loc : Loc} {active : List Loan} {stop : Stop}
    (ofBody : ∀ loan ∈ active, loan ∈ body.loans) (stops : body.Stops loc active instr stop) :
    ∃ complaint text, stop = .complaint loc complaint ∧ body.word complaint = .ok text := by
  have typed {place : Place} (mentions : place ∈ body.mentioned instr) :=
    wellTyped.exists_typeOf_of_mentioned inOrder here mentions
  cases stops with
  | @objection complaint places loans =>
      have described : ∀ place ∈ complaint.places, ∃ text, body.describe place = .ok text := by
        intro place named
        rcases places place named with ⟨whole, mentions, inside⟩
        exact exists_describe (exists_typeOf_of_isWithin inside (typed mentions))
      rcases exists_word described fun loan named =>
        wellTyped.exists_describeLoan (ofBody loan (loans loan named)) with ⟨text, worded⟩
      exact ⟨complaint, text, rfl, worded⟩
  | copyable mentions unanswered =>
      rcases wellTyped.exists_isCopyable (typed mentions) with ⟨copyable, answered⟩
      rw [unanswered] at answered
      cases answered
  | writable mentions unanswered =>
      rcases exists_isWritable (typed mentions) with ⟨writable, answered⟩
      rw [unanswered] at answered
      cases answered
  | result unanswered =>
      rcases List.length_eq_one_iff.mp inOrder.oneResult with ⟨position, single⟩
      simp [returnLocal, returnLocal?, single] at unanswered

/-- Every family of rules comes to an end. -/
theorem exists_firstViolation (wellTyped : body.WellTyped program) {analysis : Analysis}
    (analyzed : body.Analyzed analysis) (family : Family) :
    ∃ found, analysis.firstViolation family = .ok found := by
  rcases analyzed.valid.inOrder with ⟨known, inOrder⟩
  unfold Analysis.firstViolation
  cases scanned : analysis.scan family with
  | ok done => exact ⟨none, rfl⟩
  | error stop =>
      have objects : ∃ loc complaint text, stop = .complaint loc complaint ∧
          body.word complaint = .ok text := by
        rcases analyzed.stops_of_scan scanned with
          ⟨label, instr, loc, _, here, stops⟩ | ⟨long, short, declared, rfl⟩
        · exact ⟨loc, wellTyped.exists_complaint_of_stops inOrder here
            (fun loan active => ((analyzed.mem_loansAt_iff loan label).mp active).1) stops⟩
        · exact ⟨body.loc, _, _, rfl, rfl⟩
      rcases objects with ⟨loc, complaint, text, rfl, worded⟩
      refine ⟨_, bind_eq_ok.mpr ⟨text, ?_, rfl⟩⟩
      rw [analyzed.sameBody]
      exact worded

end WellTyped
end Body

/-! ## Reports -/

/-- Families of rules that come to an end can be applied in turn. -/
theorem Analysis.exists_applyFamilies {analysis : Analysis}
    (ends : ∀ family, ∃ found, analysis.firstViolation family = .ok found)
    (disabled : List String) (families : List Family) :
    ∃ outcomes, analysis.applyFamilies disabled families = .ok outcomes := by
  induction families with
  | nil => exact ⟨[], rfl⟩
  | cons family rest inductionHypothesis =>
      rcases inductionHypothesis with ⟨later, applied⟩
      unfold applyFamilies
      split
      · exact ⟨_, bind_eq_ok.mpr ⟨later, applied, rfl⟩⟩
      · rcases ends family with ⟨found, looked⟩
        cases found with
        | some violation => exact ⟨_, bind_eq_ok.mpr ⟨some violation, looked, rfl⟩⟩
        | none =>
            exact ⟨_, bind_eq_ok.mpr ⟨none, looked, bind_eq_ok.mpr ⟨later, applied, rfl⟩⟩⟩

/-- What was found can be logged. -/
theorem Body.Analyzed.exists_entries {body : Body} {report : Report}
    (analyzed : body.Analyzed report.analysis) : ∃ entries, report.entries = .ok entries := by
  have perLifetime : ∀ lifetime ∈ report.analysis.graph.lifetimes,
      ∃ entry, report.lifetimeEntry lifetime = .ok entry :=
    fun lifetime _ => ⟨_, bind_eq_ok.mpr ⟨_, analyzed.points_eq lifetime, rfl⟩⟩
  rcases mapM_ok_of_forall perLifetime with ⟨entries, logged⟩
  exact ⟨_, bind_eq_ok.mpr ⟨entries, logged, rfl⟩⟩

namespace Body

variable {body : Body} {program : Program}

/-- All analyses of a well-typed body have a result. -/
theorem WellTyped.exists_analyze (wellTyped : body.WellTyped program) (valid : body.IsValid) :
    ∃ analysis, body.analyze = .ok analysis := by
  rcases valid.inOrder with ⟨known, inOrder⟩
  rcases inOrder.exists_flow with ⟨flow, hasFlow⟩
  rcases wellTyped.exists_outlivesGraph valid with ⟨graph, hasGraph⟩
  rcases (exists_uninitialized_iff valid wellTyped.places hasFlow).mpr wellTyped.movesKnown with
    ⟨uninitialized, computed⟩
  rcases Body.exists_analyze valid hasFlow hasGraph computed with ⟨analysis, analyzed, _⟩
  exact ⟨analysis, analyzed⟩

/-- A valid and well-typed body is accepted or has a violation, and causes no fault,
whichever families of rules are disabled.  What was found can be logged. -/
theorem exists_verdict (valid : body.IsValid) (wellTyped : body.WellTyped program)
    (disabled : List String) :
    ∃ report entries, body.report disabled = .ok report ∧
      body.check disabled = .ok (report.violation?.map .violation) ∧
      body.checkEntries disabled = .ok entries := by
  rcases wellTyped.exists_analyze valid with ⟨analysis, hasAnalysis⟩
  have analyzed := analyzed_of_analyze hasAnalysis
  rcases Analysis.exists_applyFamilies (wellTyped.exists_firstViolation analyzed) disabled
    Family.all with ⟨outcomes, applied⟩
  have reported : body.report disabled = .ok { analysis, outcomes } := by
    unfold report
    rw [hasAnalysis]
    simp only [applied]
  have analyzedReport : body.Analyzed (Report.analysis { analysis, outcomes }) := analyzed
  rcases analyzedReport.exists_entries with ⟨entries, logged⟩
  refine ⟨{ analysis, outcomes }, entries, reported, check_of_report reported, ?_⟩
  unfold checkEntries
  rw [reported]
  exact logged

/-- A program with a list whose nodes refer to the next node. -/
def listProgram : Program :=
  .ofDeclarations
    [{ name := "Node"
       parameters := [.named "p"]
       fields := [{ name := "value", type := .int },
                  { name := "next"
                    type := .borrow (.named "p") .shared (.struct "Node" [.named "p"]) }] }]
    [{ name := "last"
       generics := [.named "p"]
       parameters := [.borrow (.named "p") .shared (.struct "Node" [.named "p"])]
       result := .borrow (.named "p") .shared (.struct "Node" [.named "p"]) }]

/-- A body that returns a reference into its parameter, the head of a list.  Behind
the return it reads from the list and builds a node, which is never reached. -/
def escapingHead : Body :=
  { name := "escape"
    program := some listProgram
    locals := [
      { name := "out", kind := .result
        type := .borrow (.named "a") .shared (.struct "Node" [.named "a"]) },
      { name := "head", kind := .parameter, type := .struct "Node" [.named "a"] },
      { name := "p", type := .borrow (.inferred 1) .shared (.struct "Node" [.inferred 2]) },
      { name := "v", type := .int },
      { name := "n", type := .struct "Node" [.inferred 3] }]
    code := [
      { instr := some (.assign (.ofLocal 2) (.borrow .shared (.ofLocal 1)) 1) },
      { instr := some (.call "last" [2] (.ofLocal 0) 2) },
      { instr := some .ret },
      { instr := some (.assign (.ofLocal 3) (.use (((Place.ofLocal 1).field 1).deref.field 0)) 4) },
      { instr := some (.assign (.ofLocal 4) (.make "Node" [3, 2]) 3) }]
    generics := [.named "a"] }

/-- The verdict on the body is that the parameter is still borrowed at the return. -/
theorem escapingHead_verdict :
    escapingHead.IsValid ∧ escapingHead.WellTyped listProgram ∧
      ∃ report entries, escapingHead.report [] = .ok report ∧
        escapingHead.check [] = .ok (report.violation?.map .violation) ∧
        escapingHead.checkEntries [] = .ok entries ∧
        report.violation?.map Violation.kind = some .returnBorrowedParam := by
  have valid : escapingHead.IsValid := rfl
  have wellTyped : escapingHead.WellTyped listProgram := wellTyped_of_test rfl (by decide)
  rcases exists_verdict valid wellTyped [] with ⟨report, entries, reported, checked, logged⟩
  have evaluated : (escapingHead.report []).toOption.bind (fun report =>
      report.violation?.map Violation.kind) = some .returnBorrowedParam := by
    decide +kernel
  rw [reported] at evaluated
  exact ⟨valid, wellTyped, report, entries, reported, checked, logged, evaluated⟩

end Body
end BorrowChecker
