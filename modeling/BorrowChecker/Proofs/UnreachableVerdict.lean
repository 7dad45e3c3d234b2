import BorrowChecker.Proofs.SplitVerdict
import BorrowChecker.Proofs.UnreachablePlaces

namespace BorrowChecker

/-!
The verdict on bodies that differ in unreachable code.

The rules go through reachable labels only, so the initialization and the mutability
family come to the same conclusion whatever stands elsewhere.  The other two families
look at lifetimes, and on these unreachable instructions make demands.  More demands
never make a family silent that would object without them; but they can make one
object, as a signature that is complained about for the sake of an unreachable
assignment shows.  Where the demands relate the same lifetimes, and in particular
where no unreachable instruction makes any, the verdict is the same.
-/

/-- Instructions that make no demands on lifetimes, whatever their places are. -/
def Instr.isQuiet : Instr → Bool
  | assign _ (.use _) _ | assign _ (.borrow _ _) _ | assign _ (.make _ _) _
  | assign _ .missing _ | call _ _ _ _ => false
  | assign _ (.const _) _ | assign _ .unit _ | assign _ (.unary _ _) _
  | assign _ (.binary _ _ _) _ | deinit _ _ | goto _ | branch _ _ _ | ret => true

namespace Body

variable {body other : Body} {program : Program}

/-! ## Demands of unreachable instructions -/

/-- The unreachable instructions make no demands on lifetimes. -/
def IdleUnreached (body : Body) (program : Program) : Prop :=
  ∀ label instr, body.instr? label = some instr → ¬ body.Reachable label →
    ∀ collected, body.instrDemands program collected instr = .ok collected

private theorem instrDemands_of_isQuiet {instr : Instr} (quiet : instr.isQuiet = true)
    (collected : Collected) : body.instrDemands program collected instr = .ok collected := by
  cases instr with
  | assign target source next =>
      cases source with
      | const | unit | unary | binary => rfl
      | use | borrow | make | missing => simp [Instr.isQuiet] at quiet
  | call => simp [Instr.isQuiet] at quiet
  | deinit | goto | branch | ret => rfl

/-- Whether all unreachable instructions are of a kind that makes no demands. -/
def quietUnreached (body : Body) : Bool :=
  body.flow.toOption.any fun flow => flow.labels.all fun label =>
    flow.reachable.contains label || (body.instr? label).all Instr.isQuiet

theorem idleUnreached_of_test (tested : body.quietUnreached = true) :
    body.IdleUnreached program := by
  intro label instr here unreached collected
  rcases (Option.any_eq_true _ _).mp tested with ⟨flow, isFlow, quiet⟩
  have found := toOption_eq_some.mp isFlow
  have listed : label ∈ flow.labels :=
    List.mem_range.mpr (Flow.size_eq found ▸ lt_length_of_instr? here)
  have atLabel := List.all_eq_true.mp quiet label listed
  rw [Bool.or_eq_true, List.contains_iff_mem, Flow.mem_reachable_iff found, here] at atLabel
  exact instrDemands_of_isQuiet (atLabel.resolve_left unreached) collected

/-- Idle instructions can be left out when demands are collected. -/
theorem IdleUnreached.foldlM_stmtDemands (idle : body.IdleUnreached program)
    (inOrder : body.InOrder program) {flow : Flow} (found : body.flow = .ok flow)
    (start : Collected) :
    (flow.reachable.filterMap (body.code[·]?)).foldlM (body.stmtDemands program) start =
      body.code.foldlM (body.stmtDemands program) start := by
  conv_rhs => rw [← filterMap_getElem?_range body.code]
  rw [List.foldlM_filterMap, List.foldlM_filterMap, Flow.reachable, Flow.labels,
    Flow.size_eq found, List.foldlM_filter]
  apply foldlM_congr
  intro label listed current
  split
  · rfl
  · rename_i unreached
    have below := List.mem_range.mp listed
    rcases inOrder.exists_instr below with ⟨instr, here⟩
    rcases exists_loc_of_instr? here with ⟨loc, there⟩
    rw [there]
    refine (idle label instr here ?_ current).symm
    intro reached
    exact unreached (List.contains_iff_mem.mpr ((Flow.mem_discovery_iff found label).mpr reached))

/-! ## The aliasing rule with fewer loans -/

theorem checkUse_of_subset {loc : Loc} {active fewer : List Loan} (subset : fewer ⊆ active)
    {place : Place} (passed : body.checkUse loc active place = .ok ()) :
    body.checkUse loc fewer place = .ok () := by
  rcases bind_eq_ok.mp passed with ⟨copyable, asked, passed⟩
  rcases bind_eq_ok.mp passed with ⟨_, inPlace, passed⟩
  refine bind_eq_ok.mpr ⟨copyable, asked, bind_eq_ok.mpr ⟨(), inPlace, ?_⟩⟩
  rw [Scan.objectToLoan_eq_ok] at passed ⊢
  exact fun loan listed => passed loan (subset listed)

/-- What is no conflict with some loans is none with fewer. -/
theorem checkActive_of_subset {loc : Loc} {active fewer : List Loan} (subset : fewer ⊆ active)
    {instr : Instr} (passed : body.checkActive loc active instr = .ok ()) :
    body.checkActive loc fewer instr = .ok () := by
  have uses : ∀ places : List Place, places.forM (body.checkUse loc active) = .ok () →
      places.forM (body.checkUse loc fewer) = .ok () := by
    intro places passed
    rw [forM_eq_ok] at passed ⊢
    exact fun place listed => checkUse_of_subset subset (passed place listed)
  have loans : ∀ (condition : Loan → Bool) (complaint : Loan → Complaint),
      Scan.objectToLoan active condition loc complaint = .ok () →
        Scan.objectToLoan fewer condition loc complaint = .ok () := by
    intro condition complaint passed
    rw [Scan.objectToLoan_eq_ok] at passed ⊢
    exact fun loan listed => passed loan (subset listed)
  cases instr with
  | assign target source next =>
      cases source with
      | borrow mutability place =>
          rcases bind_eq_ok.mp passed with ⟨_, borrowed, written⟩
          exact bind_eq_ok.mpr ⟨(), loans _ _ borrowed, loans _ _ written⟩
      | use | const | unit | unary | binary | make | missing =>
          rcases bind_eq_ok.mp passed with ⟨_, read, written⟩
          exact bind_eq_ok.mpr ⟨(), uses _ read, loans _ _ written⟩
  | call name arguments target next =>
      rcases bind_eq_ok.mp passed with ⟨_, read, written⟩
      exact bind_eq_ok.mpr ⟨(), uses _ read, loans _ _ written⟩
  | branch condition yes no => exact checkUse_of_subset subset passed
  | deinit victim next => exact loans _ _ passed
  | goto next => exact passed
  | ret =>
      rcases bind_eq_ok.mp passed with ⟨_, parameters, passed⟩
      rcases bind_eq_ok.mp passed with ⟨position, asked, passed⟩
      refine bind_eq_ok.mpr ⟨(), ?_, bind_eq_ok.mpr ⟨position, asked,
        checkUse_of_subset subset passed⟩⟩
      rw [forM_eq_ok] at parameters ⊢
      exact fun parameter listed => loans _ _ (parameters parameter listed)

namespace SameReached

/-! ## Scans -/

/-- Rules that agree about the reachable instructions come to the same conclusion. -/
theorem scan_eq (same : body.SameReached other) {labels : List Nat}
    (reached : ∀ label ∈ labels, body.Reachable label)
    {rule otherRule : Nat → Loc → Instr → Scan Unit}
    (sameRule : ∀ label loc instr, body.Reachable label → body.instr? label = some instr →
      otherRule label loc instr = rule label loc instr) :
    other.scan labels otherRule = body.scan labels rule := by
  apply forM_congr
  intro label listed
  rw [same.code label (reached label listed)]
  cases there : body.code[label]? with
  | none => rfl
  | some stmt =>
      rcases stmt with ⟨instr, loc⟩
      cases instr with
      | none => rfl
      | some instr =>
          exact sameRule label loc instr (reached label listed)
            (instr?_eq_some.mpr ⟨_, there, rfl⟩)

theorem describeLoan_eq (same : body.SameReached other) {loan : Loan}
    (reached : body.Reachable loan.label) : other.describeLoan loan = body.describeLoan loan := by
  have samePlace : other.describe loan.place = body.describe loan.place := by
    rcases same.frame with ⟨code, rfl⟩
    exact body.describe_withCode code loan.place
  unfold describeLoan requireAt
  rw [samePlace, memberAt_natCast, memberAt_natCast, same.code loan.label reached]

section Analyses

variable {analysis later : Analysis} (same : body.SameReached other)
  (analyzed : body.Analyzed analysis) (analyzedOther : other.Analyzed later)

include same analyzed analyzedOther

/-- A family that stops in the same way finds the same violation. -/
theorem firstViolation_of_scan {family : Family}
    (sameScan : later.scan family = analysis.scan family) :
    later.firstViolation family = analysis.firstViolation family := by
  apply analyzed.firstViolation_congr analyzedOther same.frame sameScan
  intro label loan active
  have created := ((analyzed.mem_loansAt_iff_keptAlive loan label).mp active).2.1
  exact same.describeLoan_eq created

theorem reached_of_mem_reachable (label : Nat) (listed : label ∈ later.flow.reachable) :
    body.Reachable label := by
  rw [same.reachable_eq analyzed.flow analyzedOther.flow] at listed
  exact (Flow.mem_reachable_iff analyzed.flow label).mp listed

private theorem scan_mutability : later.scan .mutability = analysis.scan .mutability := by
  unfold Analysis.scan
  rw [analyzed.sameBody, analyzedOther.sameBody, ←
    same.reachable_eq analyzed.flow analyzedOther.flow]
  apply same.scan_eq (same.reached_of_mem_reachable analyzed analyzedOther)
  intro label loc instr _ _
  rcases same.frame with ⟨code, rfl⟩
  exact body.checkWritableAt_withCode code label loc instr

/-! ## Initialization -/

variable (typed : body.PlacesTyped) (typedOther : other.PlacesTyped)

include typed typedOther

/-- Both analyses agree about the places that a reachable instruction mentions and
about what these lie within. -/
theorem agree_of_mentioned {label : Nat} {instr : Instr} (reached : body.Reachable label)
    (here : body.instr? label = some instr) {place outer : Place}
    (mentions : place ∈ body.mentioned instr) (inside : place.isWithin outer = true) :
    later.uninitialized.isUninit label outer = analysis.uninitialized.isUninit label outer ∧
      later.uninitialized.notFullyInit label outer =
        analysis.uninitialized.notFullyInit label outer := by
  rcases analyzed.valid.inOrder with ⟨_, inOrder⟩
  rcases analyzedOther.valid.inOrder with ⟨_, inOrderOther⟩
  have listed := mem_tracked_of_mentioned inOrder analyzed.trackedPlaces here mentions inside
  have listedOther := mem_tracked_of_mentioned inOrderOther analyzedOther.trackedPlaces
    ((same.instr reached).trans here) (same.mentioned_eq instr ▸ mentions) inside
  constructor
  · rw [Bool.eq_iff_iff]
    exact ⟨same.symm.isUninit_of_isUninit typedOther analyzedOther analyzed listed,
      same.isUninit_of_isUninit typed analyzed analyzedOther listedOther⟩
  · rw [Bool.eq_iff_iff]
    exact ⟨same.symm.notFullyInit_of_notFullyInit typedOther analyzedOther analyzed listed,
      same.notFullyInit_of_notFullyInit typed analyzed analyzedOther listedOther⟩

private theorem checkInitializedAt_eq {label : Nat} {loc : Loc} {instr : Instr}
    (reached : body.Reachable label) (here : body.instr? label = some instr) :
    other.checkInitializedAt later.uninitialized label loc instr =
      body.checkInitializedAt analysis.uninitialized label loc instr := by
  have sameRule : other.checkInitializedAt later.uninitialized label loc instr =
      body.checkInitializedAt later.uninitialized label loc instr := by
    rcases same.frame with ⟨code, rfl⟩
    exact body.checkInitializedAt_withCode code _ label loc instr
  have targets : instr.target?.toList.forM (checkTarget later.uninitialized label loc) =
      instr.target?.toList.forM (checkTarget analysis.uninitialized label loc) := by
    apply forM_congr
    intro target writes
    have mentions := target_mem_mentioned body (Option.mem_toList.mp writes)
    unfold checkTarget
    congr 1
    · apply forM_congr
      intro owner listed
      have around := (Place.mem_lineage_iff target owner).mp (mem_of_mem_writtenOwners listed)
      rw [(same.agree_of_mentioned analyzed analyzedOther typed typedOther reached here mentions
        around).1]
    · funext _
      apply forM_congr
      intro pointer listed
      have around := Place.isWithin_derefBase (Option.mem_toList.mp listed)
      rw [(same.agree_of_mentioned analyzed analyzedOther typed typedOther reached here mentions
        around).2]
  rw [sameRule]
  unfold checkInitializedAt
  rw [targets]
  congr 1
  funext _
  apply forM_congr
  intro place isRead
  have mentions : place ∈ body.mentioned instr := by simp [mentioned, isRead]
  rw [(same.agree_of_mentioned analyzed analyzedOther typed typedOther reached here mentions
    place.isWithin_refl).2]

private theorem scan_initialization :
    later.scan .initialization = analysis.scan .initialization := by
  unfold Analysis.scan
  rw [analyzed.sameBody, analyzedOther.sameBody, ←
    same.reachable_eq analyzed.flow analyzedOther.flow]
  apply same.scan_eq (same.reached_of_mem_reachable analyzed analyzedOther)
  intro label loc instr reached here
  exact same.checkInitializedAt_eq analyzed analyzedOther typed typedOther reached here

end Analyses

/-! ## Lifetimes and aliasing -/

private theorem declares_of_withCode {code : List Stmt} {long short : Lifetime}
    (declares : (body.withCode code).Declares long short) : body.Declares long short := by
  induction declares with
  | itself listed => exact .itself listed
  | pair listed declared _ inductionHypothesis => exact .pair listed declared inductionHypothesis

section Analyses

variable {analysis later : Analysis} (same : body.SameReached other)
  (analyzed : body.Analyzed analysis) (analyzedOther : other.Analyzed later)

include same analyzed analyzedOther

/-- With the same lifetimes related, these families stop in the same way, too. -/
theorem scan_of_outlasts (within : body.OutlastsWithin analysis.graph later.graph)
    (around : body.OutlastsWithin later.graph analysis.graph) :
    later.scan .lifetimes = analysis.scan .lifetimes ∧
      later.scan .aliasing = analysis.scan .aliasing := by
  unfold Analysis.scan
  rw [analyzed.sameBody, analyzedOther.sameBody]
  constructor
  · simp only
    rcases body.exists_declaredOutlives with ⟨closure, searched, _⟩
    have searchedOther : other.declaredOutlives = .ok closure := by
      rw [← searched]
      rcases same.frame with ⟨code, rfl⟩
      rfl
    rw [analyzed.checkSignature_of_declared searched,
      analyzedOther.checkSignature_of_declared searchedOther, same.generics_eq]
    apply forM_congr
    intro generic listed
    rw [same.aliveCallers_eq analyzed analyzedOther within around listed]
    rcases same.frame with ⟨code, rfl⟩
    rfl
  · simp only [← same.reachable_eq analyzed.flow analyzedOther.flow]
    apply same.scan_eq (same.reached_of_mem_reachable analyzed analyzedOther)
    intro label loc instr _ _
    have sameLoans := same.loansAt_eq analyzed analyzedOther within around label
    unfold Analysis.loansAt at sameLoans
    unfold checkAliasingAt
    rw [sameLoans]
    rcases same.frame with ⟨code, rfl⟩
    exact body.checkActive_withCode code loc _ instr

/-- What these families accept with more lifetimes related they accept with fewer. -/
theorem silent_of_outlastsWithin (within : body.OutlastsWithin analysis.graph later.graph) :
    (later.scan .lifetimes = .ok () → analysis.scan .lifetimes = .ok ()) ∧
      (later.scan .aliasing = .ok () → analysis.scan .aliasing = .ok ()) := by
  unfold Analysis.scan
  rw [analyzed.sameBody, analyzedOther.sameBody]
  constructor
  · intro passed
    rw [analyzed.checkSignature_eq_ok]
    intro long listed short listedShort outlasts
    have declared := analyzedOther.checkSignature_eq_ok.mp passed
    have further := within long short (.inl listed) (.inl listedShort) outlasts
    rcases same.frame with ⟨code, rfl⟩
    exact declares_of_withCode (declared long listed short listedShort further)
  · intro passed
    apply forM_eq_ok.mpr
    intro label listed
    have reached := (Flow.mem_reachable_iff analyzed.flow label).mp listed
    have listedOther : label ∈ later.flow.reachable :=
      same.reachable_eq analyzed.flow analyzedOther.flow ▸ listed
    have atLabel := forM_eq_ok.mp passed label listedOther
    rw [same.code label reached] at atLabel
    cases there : body.code[label]? with
    | none => simp [there] at atLabel
    | some stmt =>
        rcases stmt with ⟨instr, loc⟩
        cases instr with
        | none => simp [there] at atLabel
        | some instr =>
            rw [there] at atLabel
            have passedHere : body.checkActive loc (later.loansAt label) instr = .ok () := by
              rcases same.frame with ⟨code, rfl⟩
              exact atLabel
            exact checkActive_of_subset
              (fun loan => same.mem_loansAt_of_outlastsWithin analyzed analyzedOther within)
              passedHere

/-- Without demands of unreachable instructions, the graphs are the same. -/
theorem graph_eq_of_idle (inOrder : body.InOrder program) (inOrderOther : other.InOrder program)
    (idle : body.IdleUnreached program) (idleOther : other.IdleUnreached program) :
    later.graph = analysis.graph := by
  have sameCode : later.flow.reachable.filterMap (other.code[·]?) =
      analysis.flow.reachable.filterMap (body.code[·]?) := by
    rw [same.reachable_eq analyzed.flow analyzedOther.flow]
    apply List.filterMap_congr
    intro label listed
    exact same.code label ((Flow.mem_reachable_iff analyzed.flow label).mp listed)
  have sameDemands : ∀ start, other.code.foldlM (other.stmtDemands program) start =
      body.code.foldlM (body.stmtDemands program) start := by
    intro start
    rw [← idle.foldlM_stmtDemands inOrder analyzed.flow,
      ← idleOther.foldlM_stmtDemands inOrderOther analyzedOther.flow, sameCode]
    rcases same.frame with ⟨code, rfl⟩
    rw [stmtDemands_withCode]
  have sameGraph : other.outlivesGraph = body.outlivesGraph := by
    unfold outlivesGraph collectDemands
    rw [inOrder.requireProgram, inOrderOther.requireProgram]
    simp only [bind, Except.bind, sameDemands]
    rcases same.frame with ⟨code, rfl⟩
    rfl
  exact Except.ok.inj (analyzedOther.graph.symm.trans (sameGraph.trans analyzed.graph))

end Analyses
end SameReached

/-! ## The verdict -/

/-- Unreachable code influences the verdict on well-typed bodies through its demands on
lifetimes, and in no other way.  The initialization and the mutability family find the
same violation whatever the unreachable code is.  If the second body relates all the
lifetimes that the first one relates, then a family that is silent about the second is
silent about the first.  If both relate the same lifetimes, in particular if their
unreachable instructions make no demands, then the verdict is the same, whichever
families are disabled. -/
theorem check_of_sameReached (valid : body.IsValid) (validOther : other.IsValid)
    (wellTyped : body.WellTyped program) (wellTypedOther : other.WellTyped program)
    (same : body.SameReached other) :
    ∃ analysis later, body.analyze = .ok analysis ∧ other.analyze = .ok later ∧
      later.firstViolation .initialization = analysis.firstViolation .initialization ∧
      later.firstViolation .mutability = analysis.firstViolation .mutability ∧
      (body.OutlastsWithin analysis.graph later.graph → ∀ family,
        later.firstViolation family = .ok none → analysis.firstViolation family = .ok none) ∧
      (body.OutlastsWithin analysis.graph later.graph →
        body.OutlastsWithin later.graph analysis.graph → ∀ disabled,
          other.check disabled = body.check disabled) ∧
      (body.IdleUnreached program → other.IdleUnreached program → ∀ disabled,
        other.check disabled = body.check disabled) := by
  rcases wellTyped.exists_analyze valid with ⟨analysis, hasAnalysis⟩
  rcases wellTypedOther.exists_analyze validOther with ⟨later, hasLater⟩
  have analyzed := analyzed_of_analyze hasAnalysis
  have analyzedOther := analyzed_of_analyze hasLater
  have initialization := same.firstViolation_of_scan analyzed analyzedOther
    (same.scan_initialization analyzed analyzedOther wellTyped.places wellTypedOther.places)
  have mutability := same.firstViolation_of_scan analyzed analyzedOther
    (same.scan_mutability analyzed analyzedOther)
  have agree : body.OutlastsWithin analysis.graph later.graph →
      body.OutlastsWithin later.graph analysis.graph → ∀ disabled,
        other.check disabled = body.check disabled := by
    intro within around disabled
    rcases same.scan_of_outlasts analyzed analyzedOther within around with ⟨lifetimes, aliasing⟩
    refine check_congr hasAnalysis hasLater (fun family => ?_) disabled
    cases family with
    | initialization => exact initialization
    | mutability => exact mutability
    | lifetimes => exact same.firstViolation_of_scan analyzed analyzedOther lifetimes
    | aliasing => exact same.firstViolation_of_scan analyzed analyzedOther aliasing
  refine ⟨analysis, later, hasAnalysis, hasLater, initialization, mutability, ?_, agree, ?_⟩
  · intro within family silent
    have passed := Analysis.scan_of_firstViolation silent
    rcases same.silent_of_outlastsWithin analyzed analyzedOther within with
      ⟨lifetimes, aliasing⟩
    cases family with
    | initialization => exact initialization.symm.trans silent
    | mutability => exact mutability.symm.trans silent
    | lifetimes => exact Analysis.firstViolation_of_passed (lifetimes passed)
    | aliasing => exact Analysis.firstViolation_of_passed (aliasing passed)
  · intro idle idleOther
    rcases valid.inOrder with ⟨known, inOrder⟩
    rcases validOther.inOrder with ⟨knownOther, inOrderOther⟩
    rcases Option.some.inj (inOrder.declared.symm.trans wellTyped.declared) with rfl
    rcases Option.some.inj (inOrderOther.declared.symm.trans wellTypedOther.declared) with rfl
    have sameGraph :=
      same.graph_eq_of_idle analyzed analyzedOther inOrder inOrderOther idle idleOther
    apply agree
    · intro long short _ _ outlasts
      exact sameGraph ▸ outlasts
    · intro long short _ _ outlasts
      exact sameGraph ▸ outlasts

/-- A body that moves a field twice, and ends with an unreachable instruction. -/
def movedTwice (unreached : Instr) : Body :=
  { name := "moved"
    program := some boxProgram
    locals := [
      { name := "out", kind := .result, type := .unit },
      { name := "two", kind := .parameter, type := .struct "Two" [] },
      { name := "box", type := .struct "Box" [] }]
    code := [
      { instr := some (.assign (.ofLocal 2) (.use ((Place.ofLocal 1).field 0)) 1)
        loc := { line := 1 } },
      { instr := some (.assign (.ofLocal 2) (.use ((Place.ofLocal 1).field 0)) 2)
        loc := { line := 2 } },
      { instr := some (.assign (.ofLocal 0) .unit 3), loc := { line := 3 } },
      { instr := some .ret, loc := { line := 4 } },
      { instr := some unreached, loc := { line := 5 } }] }

def partWrite : Instr := .assign (((Place.ofLocal 1).field 1).field 0) (.const 1) 0

/-- If the write is unreachable, it does not matter. -/
theorem movedTwice_unreached_write :
    ∃ violation, (movedTwice (.goto 0)).check [] = .ok (some (.violation violation)) ∧
      violation.kind = .uninitUse ∧ violation.loc = { line := 2 } ∧
      (movedTwice partWrite).check [] = .ok (some (.violation violation)) := by
  have evaluated : (((movedTwice (.goto 0)).report []).toOption.bind fun report =>
      report.violation?.map fun violation => (violation.kind, violation.loc)) =
        some (.uninitUse, { line := 2 }) := by
    decide +kernel
  rcases Option.bind_eq_some_iff.mp evaluated with ⟨report, found, evaluated⟩
  rcases Option.map_eq_some_iff.mp evaluated with ⟨violation, isViolation, parts⟩
  rcases Prod.mk.inj parts with ⟨kind, loc⟩
  have checked : (movedTwice (.goto 0)).check [] = .ok (some (.violation violation)) := by
    rw [check_of_report (toOption_eq_some.mp found), isViolation, Option.map_some]
  have same : (movedTwice (.goto 0)).SameReached (movedTwice partWrite) :=
    sameReached_of_test (by decide +kernel)
  have typed : ∀ unreached, (movedTwice unreached).isWellTyped boxProgram = true →
      (movedTwice unreached).WellTyped boxProgram := fun _ tested => wellTyped_of_test rfl tested
  have valid : (movedTwice (.goto 0)).IsValid := rfl
  have validOther : (movedTwice partWrite).IsValid := rfl
  rcases check_of_sameReached valid validOther (typed _ (by decide)) (typed _ (by decide))
    same with ⟨_, _, _, _, _, _, _, _, agree⟩
  have unchanged := agree (idleUnreached_of_test (by decide +kernel))
    (idleUnreached_of_test (by decide +kernel)) []
  exact ⟨violation, checked, kind, loc, unchanged.trans checked⟩

/-- A body that returns one of two references, and ends with an unreachable
instruction. -/
def forwardedReference (unreached : Instr) : Body :=
  { name := "forward"
    program := some {}
    generics := [.named "a", .named "b"]
    locals := [
      { name := "out", kind := .result, type := .borrow (.named "a") .shared .int },
      { name := "kept", kind := .parameter, type := .borrow (.named "a") .shared .int },
      { name := "spare", kind := .parameter, type := .borrow (.named "b") .shared .int }]
    code := [
      { instr := some (.assign (.ofLocal 0) (.use (.ofLocal 1)) 1) },
      { instr := some .ret },
      { instr := some unreached }] }

def spareAssignment : Instr := .assign (.ofLocal 0) (.use (.ofLocal 2)) 1

/-- The unreachable assignment equates the two generics, and the signature rule objects
although no run of the body executes the assignment. -/
theorem forwardedReference_unreached_assignment :
    (forwardedReference (.goto 1)).IsValid ∧
      (forwardedReference spareAssignment).IsValid ∧
      (forwardedReference (.goto 1)).WellTyped {} ∧
      (forwardedReference spareAssignment).WellTyped {} ∧
      (forwardedReference (.goto 1)).SameReached (forwardedReference spareAssignment) ∧
      (forwardedReference (.goto 1)).check [] = .ok none ∧
      ∃ violation,
        (forwardedReference spareAssignment).check [] = .ok (some (.violation violation)) ∧
          violation.kind = .missingOutlives := by
  have accepted : (forwardedReference (.goto 1)).acceptedWith (fun _ => true) = true := by
    decide +kernel
  rcases exists_report_of_acceptedWith accepted with ⟨report, reported, clean, _⟩
  have checked : (forwardedReference (.goto 1)).check [] = .ok none := by
    rw [check_of_report reported, clean, Option.map_none]
  have evaluated : (((forwardedReference spareAssignment).report []).toOption.bind fun report =>
      report.violation?.map Violation.kind) = some .missingOutlives := by
    decide +kernel
  rcases Option.bind_eq_some_iff.mp evaluated with ⟨objecting, found, evaluated⟩
  rcases Option.map_eq_some_iff.mp evaluated with ⟨violation, isViolation, kind⟩
  refine ⟨rfl, rfl, wellTyped_of_test rfl (by decide), wellTyped_of_test rfl (by decide),
    sameReached_of_test (by decide +kernel), checked, violation, ?_, kind⟩
  rw [check_of_report (toOption_eq_some.mp found), isViolation, Option.map_some]

end Body
end BorrowChecker
