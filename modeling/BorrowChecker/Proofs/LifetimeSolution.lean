import BorrowChecker.Proofs.Acceptance
import BorrowChecker.Proofs.Condensation
import BorrowChecker.Proofs.OutlivesGraph

namespace BorrowChecker

/-!
The points at which lifetimes are alive form the least solution.

A lifetime is alive at a point if and only if the point is required of some
lifetime that it outlives through a chain of demands, possibly an empty one.
The solver works on components of numbered lifetimes; a chain of edges between
numbers is a chain of demands between lifetimes, which carries the exactness of
the propagation over.  The solution is compared with the plain method of solving
the constraints: let every lifetime absorb the points of those it directly
outlives, and sweep over all of them again until nothing changes.  Sweeping comes
to rest whatever the graph looks like, and where it rests it has found the same
points.
-/

theorem Requirements.mem_keys_of_contains {requirements : Requirements} {lifetime : Lifetime}
    {index : Int} (required : (requirements.pointsOf lifetime).contains index = true) :
    lifetime ∈ requirements.entries.map Prod.fst := by
  unfold pointsOf at required
  cases found : requirements.entries.lookup lifetime with
  | none => simp [found] at required
  | some points =>
      rcases List.lookup_eq_some_iff.mp found with ⟨_, _, split, _⟩
      simp [split]

/-- The points required of the lifetime with a number. -/
def Requirements.pointsAt (requirements : Requirements) (lifetimes : List Lifetime)
    (number : Nat) : IntSet :=
  (lifetimes[number]?.map requirements.pointsOf).getD IntSet.empty

theorem Requirements.pointsAt_of_getElem? (requirements : Requirements)
    {lifetimes : List Lifetime} {number : Nat} {lifetime : Lifetime}
    (there : lifetimes[number]? = some lifetime) :
    requirements.pointsAt lifetimes number = requirements.pointsOf lifetime := by
  simp [pointsAt, there]

theorem Requirements.pointsAt_eq (requirements : Requirements) {lifetimes : List Lifetime}
    {number : Nat} (below : number < lifetimes.length) :
    (do return requirements.pointsOf (← requireAt lifetimes (number : Nat))) =
      Except.ok (requirements.pointsAt lifetimes number) := by
  have there := List.getElem?_eq_getElem below
  rw [requirements.pointsAt_of_getElem? there]
  exact bind_eq_ok.mpr ⟨_, requireAt_natCast.mpr there, rfl⟩

/-- Some lifetimes with the points at which they are alive. -/
def LifetimeSets.alivePairs (solution : LifetimeSets) (lifetimes : List Lifetime) :
    List (Lifetime × Int) :=
  lifetimes.flatMap fun lifetime =>
    ((solution.set? lifetime).getD IntSet.empty).toList.map fun index => (lifetime, index)

theorem LifetimeSets.mem_alivePairs_iff (solution : LifetimeSets) {lifetimes : List Lifetime}
    {lifetime : Lifetime} {index : Int} :
    (lifetime, index) ∈ solution.alivePairs lifetimes ↔
      lifetime ∈ lifetimes ∧ solution.isAliveAt lifetime index = true := by
  have inSet : ((solution.set? lifetime).getD IntSet.empty).contains index = true ↔
      solution.isAliveAt lifetime index = true := by
    cases found : solution.set? lifetime <;> simp [isAliveAt, found]
  rw [← inSet]
  simp only [alivePairs, List.mem_flatMap, List.mem_map, Prod.mk.injEq, IntSet.mem_toList_iff]
  constructor
  · rintro ⟨_, listed, _, member, rfl, rfl⟩
    exact ⟨listed, member⟩
  · rintro ⟨listed, member⟩
    exact ⟨lifetime, listed, index, member, rfl, rfl⟩

namespace OutlivesGraph

/-! ## The solver -/

/-- Numbering further lifetimes adds nothing but the lifetimes. -/
theorem withRequired_eq (graph : OutlivesGraph) (requirements : Requirements) :
    (∀ lifetime, lifetime ∈ (graph.withRequired requirements).lifetimes ↔
      lifetime ∈ graph.lifetimes ∨ lifetime ∈ requirements.entries.map Prod.fst) ∧
    (graph.withRequired requirements).arcs = graph.arcs ∧
    ∀ long short, (graph.withRequired requirements).outlives long short =
      graph.outlives long short := by
  unfold withRequired
  generalize requirements.entries.map Prod.fst = added
  induction added generalizing graph with
  | nil => simp
  | cons first rest inductionHypothesis =>
      rcases inductionHypothesis (graph.register first) with ⟨lifetimes, arcs, outlives⟩
      rw [List.foldl_cons]
      refine ⟨?_, arcs.trans (NumberedGraph.arcs_node _ first), ?_⟩
      · intro lifetime
        rw [lifetimes, mem_lifetimes_register, List.mem_cons, or_assoc]
      · intro long short
        rw [outlives, outlives_register]

/-- Edges between numbers lead from a lifetime to those that it outlives. -/
theorem leads_iff_outlasts (graph : OutlivesGraph) {size : Nat} {digraph : Digraph size}
    (arcsOf : ∀ source target, target ∈ digraph.neighbours source ↔
      graph.arc source target = true) {source : Nat} {long : Lifetime}
    (atSource : graph.lifetimes[source]? = some long) (short : Lifetime) :
    (∃ target, graph.lifetimes[target]? = some short ∧
      Reach.Leads digraph.neighbours source target) ↔ graph.Outlasts long short := by
  constructor
  · rintro ⟨target, atTarget, leads⟩
    induction leads generalizing long with
    | refl node =>
        rcases Option.some.inj (atSource.symm.trans atTarget) with rfl
        exact .refl long
    | step edge _ inductionHypothesis =>
        have isArc := (arcsOf _ _).mp edge
        have there := List.getElem?_eq_getElem (graph.inOrder.bounded _ _ isArc).2
        have recorded := NumberedGraph.outlives_eq_true_iff.mpr
          ⟨_, _, (graph.inOrder.inverse _ _).mpr atSource, (graph.inOrder.inverse _ _).mpr there,
            isArc⟩
        exact .step recorded (inductionHypothesis there atTarget)
  · intro outlasts
    induction outlasts generalizing source with
    | refl lifetime => exact ⟨source, atSource, .refl source⟩
    | step recorded _ inductionHypothesis =>
        rcases NumberedGraph.outlives_eq_true_iff.mp recorded with
          ⟨first, second, ofLong, ofMiddle, isArc⟩
        have sameNumber : first = source := Option.some.inj
          (ofLong.symm.trans ((graph.inOrder.inverse _ _).mpr atSource))
        rcases inductionHypothesis ((graph.inOrder.inverse _ _).mp ofMiddle) with
          ⟨target, atTarget, leads⟩
        exact ⟨target, atTarget, .step ((arcsOf _ _).mpr (sameNumber ▸ isArc)) leads⟩

/-- A solution has a set for exactly the lifetimes that the graph or the requirements
mention, and the set holds the points required of the lifetimes that are outlived. -/
structure Solves (graph : OutlivesGraph) (requirements : Requirements) (space : PointSpace)
    (solution : LifetimeSets) : Prop where
  space : solution.space = space
  known : ∀ lifetime, (solution.set? lifetime).isSome = true ↔
    lifetime ∈ graph.lifetimes ∨ lifetime ∈ requirements.entries.map Prod.fst
  alive : ∀ lifetime index, solution.isAliveAt lifetime index = true ↔
    ∃ shorter, graph.Outlasts lifetime shorter ∧
      (requirements.pointsOf shorter).contains index = true

private theorem set?_zip {space : PointSpace} {lifetimes : List Lifetime} {sets : List IntSet}
    (distinct : lifetimes.Nodup) (sameLength : sets.length = lifetimes.length)
    (lifetime : Lifetime) (set : IntSet) :
    LifetimeSets.set? { space, sets := lifetimes.zip sets } lifetime = some set ↔
      ∃ number : Nat, lifetimes[number]? = some lifetime ∧ sets[number]? = some set := by
  have keys : (lifetimes.zip sets).map Prod.fst = lifetimes :=
    List.map_fst_zip (Nat.le_of_eq sameLength.symm)
  have entered := @Table.get?_eq_some_iff Lifetime IntSet _
    ⟨lifetimes.zip sets, keys.symm ▸ distinct⟩ lifetime set
  rw [List.mem_iff_getElem?] at entered
  simp only [List.getElem?_zip_eq_some] at entered
  exact entered

/-- Propagation gives each numbered lifetime the points required of the lifetimes that
it outlives. -/
theorem exists_propagated (search : Digraph.ComponentSearch) (graph : OutlivesGraph)
    (requirements : Requirements) :
    ∃ sets, (Condensation.propagate search.find (graph.withRequired requirements).lifetimes.length
        graph.arcList fun number =>
          return requirements.pointsOf
            (← requireAt (graph.withRequired requirements).lifetimes number)) = .ok sets ∧
      sets.length = (graph.withRequired requirements).lifetimes.length ∧
      ∀ (number : Nat) lifetime,
        (graph.withRequired requirements).lifetimes[number]? = some lifetime →
        ∀ index, Condensation.Holds sets number index ↔
          ∃ shorter, graph.Outlasts lifetime shorter ∧
            (requirements.pointsOf shorter).contains index = true := by
  rcases graph.withRequired_eq requirements with ⟨_, sameArcs, sameDemands⟩
  generalize graph.withRequired requirements = known at sameArcs sameDemands ⊢
  have isArc : ∀ source target, (source, target) ∈ graph.arcList ↔
      known.arc source target = true := by
    intro source target
    rw [← known.inOrder.mem_arcList_iff, NumberedGraph.arcList, NumberedGraph.arcList, sameArcs]
  have inside : ∀ arc ∈ graph.arcList,
      arc.1 < known.lifetimes.length ∧ arc.2 < known.lifetimes.length :=
    fun arc listed => known.inOrder.bounded _ _ ((isArc arc.1 arc.2).mp listed)
  rcases Condensation.exists_propagate search inside fun _ => requirements.pointsAt_eq with
    ⟨digraph, sets, arcsOf, propagated, sameLength, held⟩
  refine ⟨sets, propagated, sameLength, fun number lifetime there index => ?_⟩
  have below := (List.getElem?_eq_some_iff.mp there).1
  have leads := known.leads_iff_outlasts
    (fun first second => (arcsOf first second).trans (isArc first second)) there
  rw [held]
  constructor
  · rintro ⟨_, lower, leadsToLower, required⟩
    have atLower := List.getElem?_eq_getElem (Digraph.lt_size_of_leads below leadsToLower)
    refine ⟨_, ((leads _).mp ⟨lower, atLower, leadsToLower⟩).mono fun long short recorded => ?_, ?_⟩
    · rwa [← sameDemands]
    · rwa [requirements.pointsAt_of_getElem? atLower] at required
  · rintro ⟨shorter, outlasts, required⟩
    have outlastsKnown : known.Outlasts lifetime shorter :=
      outlasts.mono fun long short recorded => by rwa [sameDemands]
    rcases (leads shorter).mpr outlastsKnown with ⟨lower, atLower, leadsToLower⟩
    exact ⟨below, lower, leadsToLower, by rwa [requirements.pointsAt_of_getElem? atLower]⟩

/-- Solving never fails, whichever search finds the components. -/
theorem exists_solveWith (search : Digraph.ComponentSearch) (graph : OutlivesGraph)
    (requirements : Requirements) (space : PointSpace) :
    ∃ solution, graph.solveWith search.find requirements space = .ok solution ∧
      graph.Solves requirements space solution := by
  rcases graph.exists_propagated search requirements with ⟨sets, propagated, sameLength, held⟩
  have mentioned := (graph.withRequired_eq requirements).1
  have found := @set?_zip space _ _ (graph.withRequired requirements).inOrder.nodup_lifetimes
    sameLength
  refine ⟨_, bind_eq_ok.mpr ⟨sets, propagated, rfl⟩, rfl, fun lifetime => ?_,
    fun lifetime index => ?_⟩
  · rw [← mentioned, Option.isSome_iff_exists]
    simp only [found]
    constructor
    · rintro ⟨_, number, there, _⟩
      exact List.mem_of_getElem? there
    · intro listed
      rcases List.mem_iff_getElem?.mp listed with ⟨number, there⟩
      have below := sameLength ▸ (List.getElem?_eq_some_iff.mp there).1
      exact ⟨_, number, there, List.getElem?_eq_getElem below⟩
  · rw [LifetimeSets.isAliveAt, Option.any_eq_true]
    simp only [found]
    constructor
    · rintro ⟨set, ⟨number, there, isSet⟩, member⟩
      exact (held number lifetime there index).mp ⟨set, isSet, member⟩
    · rintro ⟨shorter, outlasts, required⟩
      have listed : lifetime ∈ (graph.withRequired requirements).lifetimes := by
        rw [mentioned]
        cases outlasts with
        | refl => exact .inr (Requirements.mem_keys_of_contains required)
        | step recorded _ => exact .inl (mem_lifetimes_of_outlives recorded).1
      rcases List.mem_iff_getElem?.mp listed with ⟨number, there⟩
      rcases (held number lifetime there index).mpr ⟨shorter, outlasts, required⟩ with
        ⟨set, isSet, member⟩
      exact ⟨set, ⟨number, there, isSet⟩, member⟩

theorem exists_solve (graph : OutlivesGraph) (requirements : Requirements) (space : PointSpace) :
    ∃ solution, graph.solve requirements space = .ok solution ∧
      graph.Solves requirements space solution :=
  graph.exists_solveWith .fromEveryNode requirements space

theorem solves_of_solve {graph : OutlivesGraph} {requirements : Requirements}
    {space : PointSpace} {solution : LifetimeSets}
    (solved : graph.solve requirements space = .ok solution) :
    graph.Solves requirements space solution := by
  rcases graph.exists_solve requirements space with ⟨other, found, solves⟩
  exact Except.ok.inj (found.symm.trans solved) ▸ solves

/-! ## Solving by sweeps -/

/-- The longer lifetime of a demand absorbs the points of the shorter one. -/
def absorb (points : Lifetime → IntSet) (demand : Lifetime × Lifetime) : Lifetime → IntSet :=
  fun lifetime =>
    if lifetime = demand.1 then (points demand.1).union (points demand.2) else points lifetime

/-- The demands in the order in which a sweep looks at them. -/
def sweepOrder (graph : OutlivesGraph) : List (Lifetime × Lifetime) :=
  graph.lifetimes.flatMap fun long => (graph.shorter long).map fun short => (long, short)

def sweep (graph : OutlivesGraph) (points : Lifetime → IntSet) : Lifetime → IntSet :=
  graph.sweepOrder.foldl absorb points

/-- The points of each lifetime after a number of sweeps that start from the
requirements. -/
def afterSweeps (graph : OutlivesGraph) (requirements : Requirements) : Nat → Lifetime → IntSet
  | 0 => requirements.pointsOf
  | count + 1 => graph.sweep (graph.afterSweeps requirements count)

theorem mem_sweepOrder_iff (graph : OutlivesGraph) (long short : Lifetime) :
    (long, short) ∈ graph.sweepOrder ↔ graph.outlives long short = true := by
  simp only [sweepOrder, List.mem_flatMap, List.mem_map, Prod.mk.injEq, mem_shorter_iff]
  constructor
  · rintro ⟨_, _, _, edge, rfl, rfl⟩
    exact edge
  · intro edge
    exact ⟨long, (mem_lifetimes_of_outlives edge).1, short, edge, rfl, rfl⟩

theorem contains_absorb (points : Lifetime → IntSet) (demand : Lifetime × Lifetime)
    (lifetime : Lifetime) (index : Int) :
    (absorb points demand lifetime).contains index = true ↔
      (points lifetime).contains index = true ∨
        (lifetime = demand.1 ∧ (points demand.2).contains index = true) := by
  unfold absorb
  split
  · rename_i same
    simp [same]
  · rename_i different
    simp [different]

theorem contains_foldl_absorb (demands : List (Lifetime × Lifetime))
    (points : Lifetime → IntSet) {lifetime : Lifetime} {index : Int}
    (present : (points lifetime).contains index = true) :
    (demands.foldl absorb points lifetime).contains index = true := by
  induction demands generalizing points with
  | nil => exact present
  | cons first rest inductionHypothesis =>
      exact inductionHypothesis (absorb points first)
        ((contains_absorb points first lifetime index).mpr (.inl present))

/-- A sweep carries points over each of its demands. -/
theorem contains_foldl_absorb_of_mem {demands : List (Lifetime × Lifetime)}
    (points : Lifetime → IntSet) {long short : Lifetime} {index : Int}
    (listed : (long, short) ∈ demands) (present : (points short).contains index = true) :
    (demands.foldl absorb points long).contains index = true := by
  induction demands generalizing points with
  | nil => simp at listed
  | cons first rest inductionHypothesis =>
      rcases List.mem_cons.mp listed with rfl | later
      · exact contains_foldl_absorb rest (absorb points (long, short))
          ((contains_absorb points _ long index).mpr (.inr ⟨rfl, present⟩))
      · exact inductionHypothesis (absorb points first) later
          ((contains_absorb points first short index).mpr (.inl present))

/-- A sweep leaves everything as it is. -/
def AtRest (graph : OutlivesGraph) (points : Lifetime → IntSet) : Prop :=
  graph.sweep points = points

/-- Absorbing invents no points: each of them is required of a lifetime further
down. -/
theorem sound_foldl_absorb {graph : OutlivesGraph} {requirements : Requirements}
    {demands : List (Lifetime × Lifetime)}
    (recorded : ∀ demand ∈ demands, graph.outlives demand.1 demand.2 = true)
    {points : Lifetime → IntSet}
    (sound : ∀ lifetime index, (points lifetime).contains index = true →
      ∃ shorter, graph.Outlasts lifetime shorter ∧
        (requirements.pointsOf shorter).contains index = true)
    (lifetime : Lifetime) (index : Int)
    (present : (demands.foldl absorb points lifetime).contains index = true) :
    ∃ shorter, graph.Outlasts lifetime shorter ∧
      (requirements.pointsOf shorter).contains index = true := by
  induction demands generalizing points with
  | nil => exact sound lifetime index present
  | cons first rest inductionHypothesis =>
      refine inductionHypothesis
        (fun demand listed => recorded demand (List.mem_cons_of_mem _ listed)) ?_ present
      intro other point here
      rcases (contains_absorb points first other point).mp here with old | ⟨rfl, absorbed⟩
      · exact sound other point old
      · rcases sound first.2 point absorbed with ⟨shorter, outlasts, required⟩
        exact ⟨shorter, .step (recorded first List.mem_cons_self) outlasts, required⟩

theorem sound_afterSweeps (graph : OutlivesGraph) (requirements : Requirements) (count : Nat)
    (lifetime : Lifetime) (index : Int)
    (present : (graph.afterSweeps requirements count lifetime).contains index = true) :
    ∃ shorter, graph.Outlasts lifetime shorter ∧
      (requirements.pointsOf shorter).contains index = true := by
  induction count generalizing lifetime index with
  | zero => exact ⟨lifetime, .refl lifetime, present⟩
  | succ count inductionHypothesis =>
      refine sound_foldl_absorb (fun demand listed => ?_) inductionHypothesis lifetime index present
      exact (graph.mem_sweepOrder_iff demand.1 demand.2).mp listed

theorem contains_afterSweeps_of_le {graph : OutlivesGraph} {requirements : Requirements}
    {fewer more : Nat} (enough : fewer ≤ more) {lifetime : Lifetime} {index : Int}
    (present : (graph.afterSweeps requirements fewer lifetime).contains index = true) :
    (graph.afterSweeps requirements more lifetime).contains index = true := by
  induction enough with
  | refl => exact present
  | step _ inductionHypothesis => exact contains_foldl_absorb _ _ inductionHypothesis

/-- A point travels one demand further with each sweep, so it arrives after as
many sweeps as the chain of demands is long. -/
theorem exists_sweeps_of_outlasts {graph : OutlivesGraph}
    {requirements : Requirements} {lifetime shorter : Lifetime} {index : Int}
    (outlasts : graph.Outlasts lifetime shorter)
    (required : (requirements.pointsOf shorter).contains index = true) :
    ∃ count, (graph.afterSweeps requirements count lifetime).contains index = true := by
  induction outlasts with
  | refl => exact ⟨0, required⟩
  | step edge _ inductionHypothesis =>
      rcases inductionHypothesis required with ⟨count, arrived⟩
      exact ⟨count + 1, contains_foldl_absorb_of_mem _
        ((graph.mem_sweepOrder_iff _ _).mpr edge) arrived⟩

/-- Where a sweep changes nothing, exactly the required points have arrived. -/
theorem contains_of_atRest {graph : OutlivesGraph}
    {requirements : Requirements} {count : Nat}
    (atRest : graph.AtRest (graph.afterSweeps requirements count)) (lifetime : Lifetime)
    (index : Int) :
    (graph.afterSweeps requirements count lifetime).contains index = true ↔
      ∃ shorter, graph.Outlasts lifetime shorter ∧
        (requirements.pointsOf shorter).contains index = true := by
  constructor
  · exact graph.sound_afterSweeps requirements count lifetime index
  · rintro ⟨shorter, outlasts, required⟩
    induction outlasts with
    | refl => exact contains_afterSweeps_of_le (Nat.zero_le count) required
    | step edge _ inductionHypothesis =>
        rw [← atRest]
        exact contains_foldl_absorb_of_mem _ ((graph.mem_sweepOrder_iff _ _).mpr edge)
          (inductionHypothesis required)

/-- If each of finitely many members has what it needs from some count on, all of
them have it from some count on. -/
private theorem exists_common_count {α : Type} {enough : Nat → α → Prop} (members : List α)
    (lasting : ∀ fewer more member, fewer ≤ more → enough fewer member → enough more member)
    (each : ∀ member ∈ members, ∃ count, enough count member) :
    ∃ count, ∀ member ∈ members, enough count member := by
  induction members with
  | nil => exact ⟨0, by simp⟩
  | cons first rest inductionHypothesis =>
      rcases each first List.mem_cons_self with ⟨early, ofFirst⟩
      rcases inductionHypothesis fun member listed =>
        each member (List.mem_cons_of_mem _ listed) with ⟨late, ofRest⟩
      refine ⟨max early late, fun member listed => ?_⟩
      rcases List.mem_cons.mp listed with rfl | later
      · exact lasting early _ member (Nat.le_max_left early late) ofFirst
      · exact lasting late _ member (Nat.le_max_right early late) (ofRest member later)

/-- After some number of sweeps all points have arrived that can ever arrive at a
mentioned lifetime: there are only finitely many of them. -/
theorem exists_sweeps (graph : OutlivesGraph) (requirements : Requirements) :
    ∃ count, ∀ lifetime ∈ graph.lifetimes, ∀ index,
      (∃ shorter, graph.Outlasts lifetime shorter ∧
        (requirements.pointsOf shorter).contains index = true) →
      (graph.afterSweeps requirements count lifetime).contains index = true := by
  rcases graph.exists_solve requirements default with ⟨solution, _, solves⟩
  have arrives : ∀ pair ∈ solution.alivePairs graph.lifetimes, ∃ count,
      (graph.afterSweeps requirements count pair.1).contains pair.2 = true := by
    rintro ⟨lifetime, index⟩ listed
    have alive := (solution.mem_alivePairs_iff.mp listed).2
    rcases (solves.alive lifetime index).mp alive with ⟨shorter, outlasts, required⟩
    exact exists_sweeps_of_outlasts outlasts required
  have lasting : ∀ fewer more (pair : Lifetime × Int), fewer ≤ more →
      (graph.afterSweeps requirements fewer pair.1).contains pair.2 = true →
      (graph.afterSweeps requirements more pair.1).contains pair.2 = true :=
    fun _ _ _ enough present => contains_afterSweeps_of_le enough present
  rcases exists_common_count _ lasting arrives with ⟨count, arrived⟩
  refine ⟨count, fun lifetime listed index required => ?_⟩
  exact arrived (lifetime, index)
    (solution.mem_alivePairs_iff.mpr ⟨listed, (solves.alive lifetime index).mpr required⟩)

/-- Sweeping comes to rest. -/
theorem exists_atRest (graph : OutlivesGraph) (requirements : Requirements) :
    ∃ count, graph.AtRest (graph.afterSweeps requirements count) := by
  rcases graph.exists_sweeps requirements with ⟨count, arrived⟩
  refine ⟨count, funext fun lifetime => IntSet.ext_contains fun index => ⟨fun now => ?_, ?_⟩⟩
  · have later : (graph.afterSweeps requirements (count + 1) lifetime).contains index = true := now
    rcases graph.sound_afterSweeps requirements (count + 1) lifetime index later with
      ⟨shorter, outlasts, required⟩
    cases outlasts with
    | refl => exact contains_afterSweeps_of_le (Nat.zero_le count) required
    | step edge rest =>
        exact arrived lifetime (mem_lifetimes_of_outlives edge).1 index
          ⟨shorter, .step edge rest, required⟩
  · exact contains_foldl_absorb _ _

/-- Solving any graph for any requirements succeeds with the least solution, whichever
search finds the components of the graph.  The solution has a set for exactly the
lifetimes that the graph or the requirements mention, and the set holds the points
required of some lifetime at the end of a chain of demands.  Sweeping over single
lifetimes until nothing changes gives the same sets.  An analysis solves the graph that
was collected for the requirements of the body, and keeps it as it was. -/
theorem solve_is_least_solution (search : Digraph.ComponentSearch) (operations : List Operation)
    (requirements : Requirements) (space : PointSpace) :
    (∃ solution, (built operations).solveWith search.find requirements space = .ok solution ∧
      (∀ lifetime index, solution.isAliveAt lifetime index = true ↔
        ∃ shorter, (built operations).Outlasts lifetime shorter ∧
          (requirements.pointsOf shorter).contains index = true) ∧
      (∀ lifetime, (solution.set? lifetime).isSome = true ↔
        lifetime ∈ (built operations).lifetimes ∨
          lifetime ∈ requirements.entries.map Prod.fst) ∧
      (∃ count, (built operations).AtRest ((built operations).afterSweeps requirements count)) ∧
      (∀ count, (built operations).AtRest ((built operations).afterSweeps requirements count) →
        ∀ lifetime set, solution.set? lifetime = some set →
          set = (built operations).afterSweeps requirements count lifetime)) ∧
    (∀ (body : Body) (analysis : Analysis), body.analyze = .ok analysis →
      body.outlivesGraph = .ok analysis.graph ∧
        ∃ required, body.requirements analysis.liveness = .ok required ∧
          analysis.graph.solveWith Digraph.ComponentSearch.fromEveryNode.find required
            body.pointSpace = .ok analysis.lifetimes) := by
  refine ⟨?_, ?_⟩
  · rcases (built operations).exists_solveWith search requirements space with
      ⟨solution, solved, solves⟩
    refine ⟨solution, solved, solves.alive, solves.known,
      (built operations).exists_atRest requirements, ?_⟩
    intro count atRest lifetime set found
    refine IntSet.ext_contains fun index => ?_
    rw [contains_of_atRest atRest, ← solves.alive]
    simp [LifetimeSets.isAliveAt, found]
  · intro body analysis analyzed
    have parts := Body.analyzed_of_analyze analyzed
    exact ⟨parts.graph, parts.lifetimes⟩

end OutlivesGraph
end BorrowChecker
