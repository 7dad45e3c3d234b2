import BorrowChecker.Proofs.SplitEdges

namespace BorrowChecker

/-!
What the analyses find after an edge was split.

The new label makes no demands on lifetimes and mentions no places, so the outlives
graph and the tracked places stay the same.  At the old labels the same lifetimes
are alive, the same loans are active and the same places may be uninitialized.  At
the new label a lifetime is alive if it is alive at the target of the edge, and
nothing changes there.
-/

theorem Uninitialized.placesAt_congr {tracked : List Place} {first second : States tracked.length}
    {label : Nat} (same : first.at? label = second.at? label) :
    ({ tracked, states := first } : Uninitialized).placesAt label =
      ({ tracked, states := second } : Uninitialized).placesAt label := by
  unfold placesAt
  rw [same]
  rfl

namespace Body
namespace IsSplit

variable {body longer : Body} {program : Program} {source target : Nat}

/-! ## Lifetimes -/

theorem foldlM_stmtDemands_withoutJumps (body : Body) (program : Program) (code : List Stmt)
    (collected : Collected) :
    (code.map Stmt.withoutJumps).foldlM (body.stmtDemands program) collected =
      code.foldlM (body.stmtDemands program) collected := by
  simp only [List.foldlM_map, Stmt.stmtDemands_withoutJumps]

/-- Passing control on makes no demands. -/
theorem outlivesGraph_eq (split : body.IsSplit source target longer) :
    longer.outlivesGraph = body.outlivesGraph := by
  rcases split.frame with ⟨code, rfl⟩
  rcases split.code with ⟨loc, sameCode⟩
  have sameDemands : ∀ (program : Program) (collected : Collected),
      (body.withCode code).code.foldlM (body.stmtDemands program) collected =
        body.code.foldlM (body.stmtDemands program) collected := by
    intro program collected
    rw [← foldlM_stmtDemands_withoutJumps, sameCode, List.foldlM_append,
      foldlM_stmtDemands_withoutJumps]
    exact bind_pure _
  have sameCollected : ∀ supply,
      (body.withCode code).collectDemands supply = body.collectDemands supply := by
    intro supply
    unfold collectDemands
    simp only [stmtDemands_withCode, sameDemands]
    rfl
  unfold outlivesGraph
  rw [sameCollected]
  rfl

/-- Where the same locals are live, the same is required of lifetimes. -/
theorem requiredAt_congr (split : body.IsSplit source target longer) {first second : Liveness}
    {label other : Nat}
    (sameLive : ∀ position, position ∈ second.liveAt label ↔ position ∈ first.liveAt other)
    (lifetime : Lifetime) :
    longer.RequiredAt second lifetime label ↔ body.RequiredAt first lifetime other := by
  rcases split.frame with ⟨code, rfl⟩
  simp only [RequiredAt, sameLive]
  rfl

section Analyses

variable {analysis later : Analysis} (split : body.IsSplit source target longer)
  (analyzed : body.Analyzed analysis) (analyzedLater : longer.Analyzed later)

include split analyzed analyzedLater

theorem graph_eq : later.graph = analysis.graph := by
  have sameGraph := analyzedLater.graph.symm.trans (split.outlivesGraph_eq.trans analyzed.graph)
  exact Except.ok.inj sameGraph

private theorem mem_liveAt_old_iff {label : Nat} (old : label ≠ body.code.length) (position : Nat) :
    position ∈ later.liveness.liveAt label ↔ position ∈ analysis.liveness.liveAt label := by
  rcases analyzed.valid.inOrder with ⟨program, inOrder⟩
  rcases analyzedLater.valid.inOrder with ⟨_, inOrderLater⟩
  rw [analyzedLater.liveness, analyzed.liveness,
    inOrderLater.mem_liveAt_iff_readLater analyzedLater.flow,
    inOrder.mem_liveAt_iff_readLater analyzed.flow, split.reachable_old_iff inOrder old]
  constructor
  · rintro ⟨reached, readLater⟩
    exact ⟨reached, (split.readLater_of_longer inOrder readLater).1 old⟩
  · rintro ⟨reached, readLater⟩
    exact ⟨reached, split.readLater_longer readLater⟩

/-- At the new label the locals are live that are live at the target. -/
theorem mem_liveAt_new_iff (reached : body.Reachable source) (position : Nat) :
    position ∈ later.liveness.liveAt body.code.length ↔
      position ∈ analysis.liveness.liveAt target := by
  rcases analyzed.valid.inOrder with ⟨program, inOrder⟩
  rcases analyzedLater.valid.inOrder with ⟨_, inOrderLater⟩
  rcases split.instr_new with ⟨passes, atNew⟩
  rw [analyzedLater.liveness, analyzed.liveness,
    inOrderLater.mem_liveAt_iff_readLater analyzedLater.flow,
    inOrder.mem_liveAt_iff_readLater analyzed.flow, split.reachable_new_iff inOrder]
  constructor
  · rintro ⟨_, readLater⟩
    exact ⟨reached.next split.edge, (split.readLater_of_longer inOrder readLater).2 rfl⟩
  · rintro ⟨_, readLater⟩
    refine ⟨reached, .later atNew ?_ ((split.leaving _).mpr rfl) (split.readLater_longer readLater)⟩
    simp [Instr.defs, Instr.target?]

theorem isAliveAt_old {label : Nat} (below : label < body.code.length) (lifetime : Lifetime) :
    later.lifetimes.isAliveAt lifetime label = analysis.lifetimes.isAliveAt lifetime label := by
  have belowLater : label < longer.code.length := by
    rw [split.length]
    omega
  rw [Bool.eq_iff_iff, analyzedLater.isAliveAt_label_iff lifetime belowLater,
    analyzed.isAliveAt_label_iff lifetime below, split.graph_eq analyzed analyzedLater]
  simp only [split.requiredAt_congr
    (split.mem_liveAt_old_iff analyzed analyzedLater (Nat.ne_of_lt below))]

/-- At the new label the lifetimes are alive that are alive at the target. -/
theorem isAliveAt_new (reached : body.Reachable source) (lifetime : Lifetime) :
    later.lifetimes.isAliveAt lifetime body.code.length =
      analysis.lifetimes.isAliveAt lifetime target := by
  rcases analyzed.valid.inOrder with ⟨program, inOrder⟩
  have belowLater : body.code.length < longer.code.length := by
    rw [split.length]
    omega
  rw [Bool.eq_iff_iff, analyzedLater.isAliveAt_label_iff lifetime belowLater,
    analyzed.isAliveAt_label_iff lifetime (inOrder.lt_of_edge split.edge),
    split.graph_eq analyzed analyzedLater]
  simp only [split.requiredAt_congr
    (split.mem_liveAt_new_iff analyzed analyzedLater reached)]

/-- Caller points move up by one, and stay as they are otherwise. -/
theorem aliveCallers_eq (lifetime : Lifetime) :
    later.aliveCallers lifetime = analysis.aliveCallers lifetime := by
  have sameGenerics : longer.generics = body.generics := by
    rcases split.frame with ⟨code, rfl⟩
    rfl
  have sameIndex : ∀ generic, longer.pointSpace.genericIndex? generic =
      body.pointSpace.genericIndex? generic := by
    rcases split.frame with ⟨code, rfl⟩
    intro generic
    rfl
  unfold Analysis.aliveCallers
  rw [analyzedLater.sameBody, analyzed.sameBody, sameGenerics]
  congr 1
  apply List.filter_congr
  intro position _
  rw [Bool.eq_iff_iff, analyzedLater.isAliveAt_caller_iff, analyzed.isAliveAt_caller_iff,
    split.graph_eq analyzed analyzedLater]
  simp only [sameIndex]

/-! ## Loans -/

/-- A loan that is kept at the new label came there from the source, so for the new label
the state of the loan at the source is carried along. -/
theorem keptAlive_of_longer {loan : Loan} {label : Nat} (known : loan.label < body.code.length)
    (kept : longer.KeptAlive later.lifetimes loan label) :
    (label ≠ body.code.length → body.KeptAlive analysis.lifetimes loan label) ∧
      (label = body.code.length →
        loan.label = source ∨ body.KeptAlive analysis.lifetimes loan source) := by
  rcases analyzed.valid.inOrder with ⟨program, inOrder⟩
  have targetOld := Nat.ne_of_lt (inOrder.lt_of_edge split.edge)
  have sameAlive : ∀ {label next}, body.Edge label next →
      later.lifetimes.isAliveAt loan.lifetime next = true →
      analysis.lifetimes.isAliveAt loan.lifetime next = true := by
    intro label next step alive
    rwa [split.isAliveAt_old analyzed analyzedLater (inOrder.lt_of_edge step)] at alive
  induction kept with
  | @created label step alive =>
      constructor
      · intro old
        have stays := split.kept step (Nat.ne_of_lt known) old
        exact .created stays (sameAlive stays alive)
      · rintro rfl
        exact .inl ((split.entering _).mp step)
  | @next label following _ step alive inductionHypothesis =>
      by_cases fromNew : label = body.code.length
      · subst fromNew
        have isTarget := (split.leaving following).mp step
        subst isTarget
        constructor
        · intro _
          have aliveBefore := sameAlive split.edge alive
          rcases inductionHypothesis.2 rfl with created | keptBefore
          · exact .created (created ▸ split.edge) aliveBefore
          · exact .next keptBefore split.edge aliveBefore
        · intro same
          exact absurd same targetOld
      · constructor
        · intro old
          have stays := split.kept step fromNew old
          exact .next (inductionHypothesis.1 fromNew) stays (sameAlive stays alive)
        · rintro rfl
          rw [← (split.entering _).mp step]
          exact .inr (inductionHypothesis.1 fromNew)

private theorem keptAlive_longer {loan : Loan} {label : Nat} (reached : body.Reachable loan.label)
    (kept : body.KeptAlive analysis.lifetimes loan label) :
    longer.KeptAlive later.lifetimes loan label := by
  rcases analyzed.valid.inOrder with ⟨program, inOrder⟩
  have sameAlive : ∀ {label next}, body.Edge label next →
      analysis.lifetimes.isAliveAt loan.lifetime next = true →
      later.lifetimes.isAliveAt loan.lifetime next = true := by
    intro label next step alive
    rwa [split.isAliveAt_old analyzed analyzedLater (inOrder.lt_of_edge step)]
  have toNew := (split.entering source).mpr rfl
  have fromNew := (split.leaving target).mpr rfl
  induction kept with
  | created step alive =>
      rcases split.rerouted step with stays | ⟨created, rfl⟩
      · exact .created stays (sameAlive step alive)
      · have aliveAtNew := (split.isAliveAt_new analyzed analyzedLater (created ▸ reached)
          loan.lifetime).trans alive
        exact .next (.created (created ▸ toNew) aliveAtNew) fromNew (sameAlive step alive)
  | next before step alive inductionHypothesis =>
      rcases split.rerouted step with stays | ⟨rfl, rfl⟩
      · exact .next inductionHypothesis stays (sameAlive step alive)
      · have aliveAtNew := (split.isAliveAt_new analyzed analyzedLater (before.reachable reached)
          loan.lifetime).trans alive
        exact .next (.next inductionHypothesis toNew aliveAtNew) fromNew (sameAlive step alive)

omit analyzed analyzedLater in
theorem loans_eq : longer.loans = body.loans := by
  rcases split.instr_new with ⟨passes, atNew⟩
  have old : ∀ label ∈ List.range body.code.length, longer.loanAt? label = body.loanAt? label := by
    intro label listed
    rw [loanAt?, loanAt?, loanAt_eq_withoutJumps, loanAt_eq_withoutJumps,
      split.instr_old (List.mem_range.mp listed)]
    rcases split.frame with ⟨code, rfl⟩
    rfl
  have new : longer.loanAt? body.code.length = none := by
    unfold loanAt? loanAt
    rw [atNew]
    rfl
  unfold loans labels
  rw [split.length, List.range_succ, List.filterMap_append, List.filterMap_cons_none new,
    List.filterMap_nil, List.append_nil]
  have sameOld := congrArg (List.filterMap id) (List.map_congr_left old)
  rwa [List.filterMap_map, List.filterMap_map] at sameOld

/-- At an old label the same loans are active, in the same order. -/
theorem loansAt_eq {label : Nat} (below : label < body.code.length) :
    later.loansAt label = analysis.loansAt label := by
  rcases analyzed.valid.inOrder with ⟨program, inOrder⟩
  have sameMembers : ∀ loan ∈ body.loans,
      loan ∈ later.loansAt label ↔ loan ∈ analysis.loansAt label := by
    intro loan known
    rcases loanAt?_eq_some.mp ((mem_loans_iff loan).mp known) with ⟨_, _, _, _, _, created, _⟩
    have knownLabel := lt_length_of_instr? created
    rw [analyzedLater.mem_loansAt_iff_keptAlive, analyzed.mem_loansAt_iff_keptAlive, split.loans_eq,
      split.reachable_old_iff inOrder (Nat.ne_of_lt knownLabel)]
    constructor
    · rintro ⟨_, reached, kept⟩
      exact ⟨known, reached, (split.keptAlive_of_longer analyzed analyzedLater knownLabel kept).1
        (Nat.ne_of_lt below)⟩
    · rintro ⟨_, reached, kept⟩
      exact ⟨known, reached, split.keptAlive_longer analyzed analyzedLater reached kept⟩
  rcases analyzed.loansAt_eq_filter label with ⟨selected, listed⟩
  rcases analyzedLater.loansAt_eq_filter label with ⟨selectedLater, listedLater⟩
  rw [listed, listedLater, split.loans_eq] at sameMembers ⊢
  apply List.filter_congr
  intro loan known
  rw [Bool.eq_iff_iff]
  simpa [known] using sameMembers loan known

end Analyses

/-! ## Uninitialized places -/

theorem mapM_trackedIn_withoutJumps (body : Body) (code : List Stmt) :
    (code.map Stmt.withoutJumps).mapM body.trackedIn = code.mapM body.trackedIn := by
  induction code with
  | nil => rfl
  | cons first rest inductionHypothesis =>
      rw [List.map_cons, List.mapM_cons, List.mapM_cons, Stmt.trackedIn_withoutJumps,
        inductionHypothesis]

/-- The new label mentions no places. -/
theorem trackedPlaces_eq_ok (split : body.IsSplit source target longer) {tracked : List Place}
    (found : body.trackedPlaces = .ok tracked) : longer.trackedPlaces = .ok tracked := by
  rcases split.frame with ⟨code, rfl⟩
  rcases split.code with ⟨loc, sameCode⟩
  rcases bind_eq_ok.mp found with ⟨lists, mapped, isTracked⟩
  have mappedLater : (body.withCode code).code.mapM (body.withCode code).trackedIn =
      .ok (lists ++ [[]]) := by
    rw [trackedIn_withCode, ← mapM_trackedIn_withoutJumps, sameCode, List.mapM_append,
      mapM_trackedIn_withoutJumps, mapped]
    rfl
  refine bind_eq_ok.mpr ⟨lists ++ [[]], mappedLater, ?_⟩
  rw [List.flatten_append, List.flatten_singleton, List.append_nil]
  exact isTracked

theorem eventsAt_old (split : body.IsSplit source target longer) {label : Nat}
    (below : label < body.code.length) : longer.eventsAt label = body.eventsAt label := by
  have alike := split.instr_old below
  rcases split.frame with ⟨code, rfl⟩
  unfold eventsAt
  cases here : body.instr? label with
  | none =>
      rw [here, Option.map_none, Option.map_eq_none_iff] at alike
      rw [alike]
  | some instr =>
      rw [here, Option.map_some, Option.map_eq_some_iff] at alike
      rcases alike with ⟨other, there, same⟩
      rw [there]
      simp only
      rw [events_withCode, ← events_withoutJumps, same, events_withoutJumps]

theorem eventsAt_new (split : body.IsSplit source target longer) :
    longer.eventsAt body.code.length = .ok [] := by
  rcases split.instr_new with ⟨passes, atNew⟩
  unfold eventsAt
  rw [atNew]
  rfl

section Uninitialized

variable {flow laterFlow : Flow} {tracked : List Place}
  {effects laterEffects : List (Nat × List (Effect tracked.length))}

/-- The effects at all labels of the longer body are known, the new one included. -/
theorem exists_effects (split : body.IsSplit source target longer)
    (inOrder : body.InOrder program) (found : body.flow = .ok flow)
    (foundLater : longer.flow = .ok laterFlow)
    (determined : body.effects flow tracked = .ok effects) :
    ∃ laterEffects, longer.effects laterFlow tracked = .ok laterEffects := by
  apply mapM_ok_of_forall
  intro label listed
  have known : ∃ events, longer.eventsAt label = .ok events := by
    rcases split.reachable_of_longer inOrder
      ((Flow.mem_discovery_iff foundLater label).mp listed) with ⟨_, reached⟩ | ⟨rfl, _⟩
    · rcases exists_eventsAt found determined reached with ⟨events, asked, _⟩
      have below : label < body.code.length :=
        Flow.size_eq found ▸ Flow.lt_size_of_reachable found reached
      exact ⟨events, (split.eventsAt_old below).trans asked⟩
    · exact ⟨[], split.eventsAt_new⟩
  rcases known with ⟨events, asked⟩
  exact ⟨_, bind_eq_ok.mpr ⟨events, asked, rfl⟩⟩

variable (split : body.IsSplit source target longer) (inOrder : body.InOrder program)
  (found : body.flow = .ok flow) (foundLater : longer.flow = .ok laterFlow)
  (determined : body.effects flow tracked = .ok effects)
  (determinedLater : longer.effects laterFlow tracked = .ok laterEffects)

include split inOrder found foundLater determined determinedLater

omit inOrder in
theorem initTransfer_old {label : Nat} (reached : body.Reachable label) :
    initTransfer laterEffects label = initTransfer effects label := by
  have below : label < body.code.length :=
    Flow.size_eq found ▸ Flow.lt_size_of_reachable found reached
  rcases exists_eventsAt found determined reached with ⟨events, asked, transferred⟩
  rcases exists_eventsAt foundLater determinedLater (split.reachable_longer reached) with
    ⟨laterEvents, askedLater, transferredLater⟩
  rw [split.eventsAt_old below, asked, Except.ok.injEq] at askedLater
  funext set
  rw [transferred, transferredLater, askedLater]

omit found determined in
theorem initTransfer_new (reached : body.Reachable source) (set : IndexSet tracked.length) :
    initTransfer laterEffects body.code.length set = set := by
  rcases exists_eventsAt foundLater determinedLater ((split.reachable_new_iff inOrder).mpr reached)
    with ⟨events, asked, transferred⟩
  rw [split.eventsAt_new, Except.ok.injEq] at asked
  rw [transferred, ← asked]
  rfl

/-- The sets of the longer body satisfy the constraints of the body. -/
theorem closedForward_of_longer {boundary : IndexSet tracked.length}
    {family : Nat → IndexSet tracked.length}
    (closed : longer.ClosedForward boundary (initTransfer laterEffects) family) :
    body.ClosedForward boundary (initTransfer effects) family := by
  constructor
  · rw [← split.entry]
    exact closed.entry
  · intro label next reached step
    rw [← split.initTransfer_old found foundLater determined determinedLater reached]
    have reachedLater := split.reachable_longer reached
    rcases split.rerouted step with stays | ⟨rfl, rfl⟩
    · exact closed.edges label next reachedLater stays
    · have toNew := closed.edges label _ reachedLater ((split.entering _).mpr rfl)
      have fromNew := closed.edges _ next ((split.reachable_new_iff inOrder).mpr reached)
        ((split.leaving _).mpr rfl)
      rw [split.initTransfer_new inOrder foundLater determinedLater reached] at fromNew
      exact toNew.trans fromNew

/-- The sets of the body, together with what the label before it makes of its set at
the new label, satisfy the constraints of the longer body. -/
theorem closedForward_longer {boundary : IndexSet tracked.length}
    {family : Nat → IndexSet tracked.length}
    (closed : body.ClosedForward boundary (initTransfer effects) family) :
    longer.ClosedForward boundary (initTransfer laterEffects) fun label =>
      if label = body.code.length then initTransfer effects source (family source)
      else family label := by
  have targetOld := Nat.ne_of_lt (inOrder.lt_of_edge split.edge)
  constructor
  · have entryOld : longer.entry.toNat ≠ body.code.length := by
      rcases (inRange_iff _ _).mp inOrder.entryInRange with ⟨start, same, below⟩
      rw [split.entry]
      omega
    rw [if_neg entryOld, split.entry]
    exact closed.entry
  · intro label next reached step
    rcases split.reachable_of_longer inOrder reached with
      ⟨old, reachedBefore⟩ | ⟨rfl, reachedSource⟩
    · rw [if_neg old,
        split.initTransfer_old found foundLater determined determinedLater reachedBefore]
      by_cases entersNew : next = body.code.length
      · rw [if_pos entersNew]
        rw [entersNew, split.entering] at step
        rw [step]
        exact .refl _
      · rw [if_neg entersNew]
        exact closed.edges label next reachedBefore (split.kept step old entersNew)
    · rw [if_pos rfl, (split.leaving next).mp step, if_neg targetOld,
        split.initTransfer_new inOrder foundLater determinedLater reachedSource]
      exact closed.edges source target reachedSource split.edge

/-- At the old labels the same places may be uninitialized. -/
theorem states_old (boundary : IndexSet tracked.length) {label : Nat}
    (old : label ≠ body.code.length) :
    (laterFlow.solveForward boundary (initTransfer laterEffects)).at? label =
      (flow.solveForward boundary (initTransfer effects)).at? label := by
  have monotone : body.MonotoneTransfer (initTransfer effects) :=
    fun label _ _ _ smaller => initTransfer_mono label smaller
  have monotoneLater : longer.MonotoneTransfer (initTransfer laterEffects) :=
    fun label _ _ _ smaller => initTransfer_mono label smaller
  by_cases reached : body.Reachable label
  · rcases (Flow.solveForward_isSome_iff boundary (initTransfer effects) found label).mpr reached
      with ⟨set, here⟩
    rcases (Flow.solveForward_isSome_iff boundary (initTransfer laterEffects) foundLater label).mpr
      (split.reachable_longer reached) with ⟨laterSet, there⟩
    have shrinks := Flow.solveForward_within foundLater monotoneLater
      (split.closedForward_longer inOrder found foundLater determined determinedLater
        (Flow.closedForward_solveForward found)) there
    have grows := Flow.solveForward_within found monotone
      (split.closedForward_of_longer inOrder found foundLater determined determinedLater
        (Flow.closedForward_solveForward foundLater)) here
    rw [if_neg old, Flow.stateOf_eq here] at shrinks
    rw [Flow.stateOf_eq there] at grows
    rw [here, there, shrinks.antisymm grows]
  · have unreached := mt (split.reachable_old_iff inOrder old).mp reached
    rw [Flow.at?_eq_none_of_unreached
        (Flow.solveForward_isSome_iff boundary (initTransfer laterEffects) foundLater label).mp
        unreached,
      Flow.at?_eq_none_of_unreached
        (Flow.solveForward_isSome_iff boundary (initTransfer effects) found label).mp reached]

end Uninitialized

theorem exists_uninitialized {flow laterFlow : Flow} {analysis : Uninitialized}
    (split : body.IsSplit source target longer) (inOrder : body.InOrder program)
    (found : body.flow = .ok flow) (foundLater : longer.flow = .ok laterFlow)
    (computed : body.uninitialized flow = .ok analysis) :
    ∃ later, longer.uninitialized laterFlow = .ok later ∧
      ∀ label, label ≠ body.code.length → later.placesAt label = analysis.placesAt label := by
  rcases uninitialized_eq_ok computed with ⟨tracked, effects, isTracked, determined, rfl⟩
  rcases split.exists_effects inOrder found foundLater determined with
    ⟨laterEffects, determinedLater⟩
  rcases inOrder.exists_rootKinds isTracked with ⟨kinds, rooted⟩
  have sameRoots : longer.rootKinds tracked = body.rootKinds tracked := by
    rcases split.frame with ⟨code, rfl⟩
    rfl
  refine ⟨_, bind_eq_ok.mpr ⟨tracked, split.trackedPlaces_eq_ok isTracked, bind_eq_ok.mpr
    ⟨kinds, sameRoots.trans rooted, bind_eq_ok.mpr ⟨laterEffects, determinedLater, rfl⟩⟩⟩, ?_⟩
  intro label old
  have sameEntry : longer.entryState tracked = body.entryState tracked := by
    rcases split.frame with ⟨code, rfl⟩
    rfl
  apply Uninitialized.placesAt_congr
  rw [sameEntry]
  exact split.states_old inOrder found foundLater determined determinedLater _ old

end IsSplit
end Body
end BorrowChecker
