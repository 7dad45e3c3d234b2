import BorrowChecker.Proofs.Dataflow

namespace BorrowChecker

/-!
Dataflow solutions are least.

A worklist is emptied after finitely many visits, and what has arrived by then is
the least family of sets that satisfies the constraints of the problem.  Going
forward, the constraints are inclusions along the edges of the control flow.
Going backward, they are equations: the set before an instruction is the outcome
of the union of the sets before its successors.  That the equations hold, and not
only inclusions, needs a monotone transfer function.  A label may be looked at
several times, and what it delivered early must not exceed what it delivers last.

A finite universe is given by its size; its members are numbered.
-/

namespace IndexSet

variable {bound : Nat}

/-- The members of any of several sets. -/
def unionAll (sets : List (IndexSet bound)) : IndexSet bound := sets.foldl union empty

@[simp] theorem contains_unionAll (sets : List (IndexSet bound)) (index : Nat) :
    (unionAll sets).contains index = sets.any fun set => set.contains index := by
  suffices joined : ∀ start : IndexSet bound, (sets.foldl union start).contains index =
      (start.contains index || sets.any fun set => set.contains index) by
    simpa [unionAll] using joined empty
  induction sets with
  | nil => simp
  | cons first rest inductionHypothesis =>
      intro start
      rw [List.foldl_cons, inductionHypothesis, contains_union, List.any_cons, Bool.or_assoc]

private theorem empty_within (set : IndexSet bound) : (empty : IndexSet bound).Within set := by
  intro index member
  simp at member

theorem Within.antisymm {left right : IndexSet bound} (front : left.Within right)
    (back : right.Within left) : left = right := by
  apply ext_contains
  intro index
  exact Bool.eq_iff_iff.mpr ⟨front index, back index⟩

end IndexSet

/-! ## Propagation ends -/

namespace Propagation

variable {bound : Nat}

/-- So many visits, each of the label that has waited longest, lead from the start
to a state of a propagation. -/
inductive Visits (problem : Propagation bound) (start : Progress bound) :
    Nat → Progress bound → Prop where
  | begun : Visits problem start 0 start
  | next {count : Nat} {current : Progress bound} {label : Nat} {rest : Worklist Nat}
      (before : Visits problem start count current)
      (waiting : current.work.waiting = label :: rest.waiting) :
      Visits problem start (count + 1) (problem.visit current.arrivals label rest)

/-- A propagation has ended after finitely many visits: nothing is queued any more,
and the given sets have arrived. -/
def EndsWith (problem : Propagation bound) (start : Progress bound) (result : Arrivals bound) :
    Prop :=
  ∃ count last, problem.Visits start count last ∧ count ≤ start.measure ∧
    last.work.waiting = [] ∧ last.arrivals = result

/-- Every visit uses up some of the remaining work. -/
theorem measure_visit_lt (problem : Propagation bound) {current : Progress bound} {label : Nat}
    {rest : Worklist Nat} (waiting : current.work.waiting = label :: rest.waiting) :
    (problem.visit current.arrivals label rest).measure < current.measure := by
  have bounded := measure_visit problem current.arrivals label rest
  have shorter := Worklist.size_of_pop? (Worklist.pop?_eq_some.mpr waiting)
  simp only [Progress.measure] at bounded ⊢
  omega

theorem endsWith_run (problem : Propagation bound) (start : Progress bound) :
    problem.EndsWith start (problem.run start) := by
  let counted (current : Progress bound) : Prop :=
    ∃ count, problem.Visits start count current ∧ count + current.measure ≤ start.measure
  have kept : ∀ current label (rest : Worklist Nat), counted current →
      current.work.waiting = label :: rest.waiting →
      counted (problem.visit current.arrivals label rest) := by
    rintro current label rest ⟨count, visits, bounded⟩ waiting
    have smaller := measure_visit_lt problem waiting
    exact ⟨count + 1, visits.next waiting, by omega⟩
  rcases problem.run_preserves (motive := counted) start ⟨0, .begun, by omega⟩ kept with
    ⟨last, ⟨count, visits, bounded⟩, finished, result⟩
  exact ⟨count, last, visits, by omega, finished, result.symm⟩

end Propagation

namespace Flow

variable {bound : Nat}

def forward (flow : Flow) (transfer : Nat → IndexSet bound → IndexSet bound) :
    Propagation bound :=
  { targets := flow.successors, transfer }

/-- Where propagation along control flow starts: the boundary has arrived at the
entry. -/
def forwardStart (flow : Flow) (boundary : IndexSet bound) : Progress bound :=
  { arrivals := flow.labels.map fun label => if label = flow.entry then some boundary else none
    work := Worklist.empty.push flow.entry }

def backward (flow : Flow) (transfer : Nat → IndexSet bound → IndexSet bound) :
    Propagation bound :=
  { targets := fun label => (flow.predecessors label).filter fun source =>
      flow.reachable.contains source
    transfer }

/-- Where propagation against control flow starts: the boundary has arrived where
control ends, and every reachable label has to be looked at. -/
def backwardProgress (flow : Flow) (boundary : IndexSet bound) : Progress bound :=
  { arrivals := flow.backwardStart flow.reachable boundary
    work := .ofList flow.reachable.reverse }

end Flow

/-! ## What a solution has to satisfy -/

namespace Body

variable {bound : Nat}

/-- A transfer function keeps inclusions at every reachable label. -/
def MonotoneTransfer (body : Body) (transfer : Nat → IndexSet bound → IndexSet bound) : Prop :=
  ∀ label, body.Reachable label → ∀ less more : IndexSet bound, less.Within more →
    (transfer label less).Within (transfer label more)

/-- A family of sets contains the boundary at the entry and, at every successor of a
reachable label, what the instruction makes of its set. -/
structure ClosedForward (body : Body) (boundary : IndexSet bound)
    (transfer : Nat → IndexSet bound → IndexSet bound) (family : Nat → IndexSet bound) :
    Prop where
  entry : boundary.Within (family body.entry.toNat)
  edges : ∀ source target, body.Reachable source → body.Edge source target →
    (transfer source (family source)).Within (family target)

/-- What a family says to hold after the instruction at a label: the boundary where
control ends, and elsewhere the union of the sets before the successors. -/
def joinAfter (body : Body) (boundary : IndexSet bound) (family : Nat → IndexSet bound)
    (label : Nat) : IndexSet bound :=
  let following := ((body.instr? label).map Instr.successors).getD []
  if following.isEmpty then boundary
  else IndexSet.unionAll (following.map fun next => family next.toNat)

/-- At every reachable label, the set of a family is what the instruction makes of
the set after it. -/
def SolvedBackward (body : Body) (boundary : IndexSet bound)
    (transfer : Nat → IndexSet bound → IndexSet bound) (family : Nat → IndexSet bound) : Prop :=
  ∀ label, body.Reachable label →
    family label = transfer label (body.joinAfter boundary family label)

/-- The states are the least family with a property.  Only reachable labels have a
state. -/
structure LeastFamily (body : Body) (property : (Nat → IndexSet bound) → Prop)
    (states : States bound) : Prop where
  unreached : ∀ label, ¬ body.Reachable label → states.at? label = none
  least : ∃ family, property family ∧
    (∀ label, body.Reachable label → states.at? label = some (family label)) ∧
    ∀ other, property other → ∀ label, body.Reachable label →
      (family label).Within (other label)

end Body

namespace Flow

variable {bound : Nat} {body : Body} {flow : Flow} {boundary : IndexSet bound}
  {transfer : Nat → IndexSet bound → IndexSet bound}

theorem at?_eq_none_of_unreached {states : States bound} {label : Nat}
    (onlyReached : (∃ set, states.at? label = some set) → body.Reachable label)
    (unreached : ¬ body.Reachable label) : states.at? label = none := by
  cases here : states.at? label with
  | none => rfl
  | some set => exact absurd (onlyReached ⟨set, here⟩) unreached

/-! ## Forward -/

theorem solveForward_within {family : Nat → IndexSet bound} (found : body.flow = .ok flow)
    (monotone : body.MonotoneTransfer transfer)
    (closed : body.ClosedForward boundary transfer family) {label : Nat} {set : IndexSet bound}
    (here : (flow.solveForward boundary transfer).at? label = some set) :
    set.Within (family label) := by
  have holds : body.Reachable label ∧ set.Within (family label) := by
    refine solveForward_holds boundary transfer
      (motive := fun label set => body.Reachable label ∧ set.Within (family label)) ?_ ?_ ?_ here
    · rw [entry_eq found]
      exact ⟨⟨[], .here⟩, closed.entry⟩
    · rintro _ left right ⟨reached, ofLeft⟩ ⟨_, ofRight⟩
      exact ⟨reached, ofLeft.union ofRight⟩
    · rintro source before target ⟨reached, included⟩ edge
      have step := (mem_successors_iff found source target).mp edge
      exact ⟨reached.next step,
        (monotone source reached _ _ included).trans (closed.edges source target reached step)⟩
  exact holds.2

/-- The set at a label, empty where nothing has arrived. -/
def stateOf (states : States bound) (label : Nat) : IndexSet bound :=
  (states.at? label).getD IndexSet.empty

theorem stateOf_eq {states : States bound} {label : Nat} {set : IndexSet bound}
    (here : states.at? label = some set) : stateOf states label = set := by
  rw [stateOf, here, Option.getD_some]

theorem closedForward_solveForward (found : body.flow = .ok flow) :
    body.ClosedForward boundary transfer (stateOf (flow.solveForward boundary transfer)) := by
  constructor
  · rcases solveForward_entry boundary transfer found with ⟨set, here, included⟩
    rw [← entry_eq found, stateOf_eq here]
    exact included
  · intro source target reached step
    rcases (solveForward_isSome_iff boundary transfer found source).mpr reached with ⟨set, here⟩
    rcases solveForward_edge boundary transfer found here step with ⟨later, there, included⟩
    rw [stateOf_eq here, stateOf_eq there]
    exact included

private theorem leastFamily_solveForward (found : body.flow = .ok flow)
    (monotone : body.MonotoneTransfer transfer) :
    body.LeastFamily (body.ClosedForward boundary transfer)
      (flow.solveForward boundary transfer) := by
  constructor
  · intro label unreached
    exact at?_eq_none_of_unreached (solveForward_isSome_iff boundary transfer found label).mp
      unreached
  · refine ⟨stateOf (flow.solveForward boundary transfer), closedForward_solveForward found, ?_, ?_⟩
    · intro label reached
      rcases (solveForward_isSome_iff boundary transfer found label).mpr reached with ⟨set, here⟩
      rw [stateOf_eq here, here]
    · intro other closed label reached
      rcases (solveForward_isSome_iff boundary transfer found label).mpr reached with ⟨set, here⟩
      rw [stateOf_eq here]
      exact solveForward_within found monotone closed here

/-! ## Backward -/

theorem joinAfter_of_last {program : Program} (inOrder : body.InOrder program)
    (found : body.flow = .ok flow) (family : Nat → IndexSet bound) {label : Nat}
    (isLast : (flow.successors label).isEmpty = true) :
    body.joinAfter boundary family label = boundary := by
  unfold Body.joinAfter
  cases here : body.instr? label with
  | none => rfl
  | some instr =>
      cases listed : instr.successors with
      | nil => simp [listed]
      | cons next rest =>
          have jump : next ∈ instr.successors := by simp [listed]
          rcases (inRange_iff _ _).mp ((inOrder.instrInOrder here).jumps next jump) with
            ⟨target, rfl, _⟩
          have edge := (mem_successors_iff found label target).mpr ⟨instr, here, jump⟩
          rw [List.isEmpty_iff.mp isLast] at edge
          simp at edge

theorem contains_joinAfter_iff {program : Program} (inOrder : body.InOrder program)
    (found : body.flow = .ok flow) (family : Nat → IndexSet bound) {label : Nat}
    (goesOn : ¬ (flow.successors label).isEmpty = true) (index : Nat) :
    (body.joinAfter boundary family label).contains index = true ↔
      ∃ target, body.Edge label target ∧ (family target).contains index = true := by
  rcases List.exists_mem_of_ne_nil _ (mt List.isEmpty_iff.mpr goesOn) with ⟨someTarget, edge⟩
  rcases (mem_successors_iff found label someTarget).mp edge with ⟨instr, here, someJump⟩
  have nonempty : instr.successors.isEmpty = false := by
    simpa using List.ne_nil_of_mem someJump
  simp only [Body.joinAfter, here, Option.map_some, Option.getD_some, nonempty,
    Bool.false_eq_true, if_false, IndexSet.contains_unionAll, List.any_map, List.any_eq_true,
    Function.comp_apply]
  constructor
  · rintro ⟨next, jump, member⟩
    rcases (inRange_iff _ _).mp ((inOrder.instrInOrder here).jumps next jump) with ⟨target, rfl, _⟩
    exact ⟨target, ⟨instr, here, jump⟩, member⟩
  · rintro ⟨target, ⟨other, alsoHere, jump⟩, member⟩
    have sameInstr : other = instr := Option.some.inj (alsoHere.symm.trans here)
    exact ⟨target, sameInstr ▸ jump, member⟩

/-- What a label delivers against an edge is part of what a family says to hold
after the instruction that the edge leaves. -/
theorem within_joinAfter {program : Program} (inOrder : body.InOrder program)
    (found : body.flow = .ok flow) (family : Nat → IndexSet bound) {source target : Nat}
    (step : body.Edge source target) :
    (family target).Within (body.joinAfter boundary family source) := by
  have edge := (mem_successors_iff found source target).mpr step
  have goesOn : ¬ (flow.successors source).isEmpty = true := by
    intro isLast
    simp [List.isEmpty_iff.mp isLast] at edge
  intro index member
  exact (contains_joinAfter_iff inOrder found family goesOn index).mpr ⟨target, step, member⟩

/-- What has arrived after an instruction is contained in what a family says to hold
there, if the family contains what the instructions make of it. -/
theorem setsAfter_within {program : Program} (inOrder : body.InOrder program)
    (found : body.flow = .ok flow) (monotone : body.MonotoneTransfer transfer)
    {family : Nat → IndexSet bound}
    (absorbs : ∀ label, body.Reachable label →
      (transfer label (body.joinAfter boundary family label)).Within (family label))
    {label : Nat} {after : IndexSet bound}
    (here : (flow.setsAfter boundary transfer).at? label = some after) :
    after.Within (body.joinAfter boundary family label) := by
  have holds : body.Reachable label ∧ after.Within (body.joinAfter boundary family label) := by
    refine setsAfter_holds boundary transfer (motive := fun label set =>
      body.Reachable label ∧ set.Within (body.joinAfter boundary family label)) ?_ ?_ ?_ here
    · intro start listed
      refine ⟨(mem_reachable_iff found start).mp listed, ?_⟩
      split
      · rename_i isLast
        rw [joinAfter_of_last inOrder found family isLast]
        exact .refl boundary
      · exact IndexSet.empty_within _
    · rintro _ left right ⟨reached, ofLeft⟩ ⟨_, ofRight⟩
      exact ⟨reached, ofLeft.union ofRight⟩
    · rintro target set source ⟨reached, included⟩ edge listed
      have step := (mem_predecessors_iff found source target).mp edge
      have delivered : (transfer target set).Within (family target) :=
        (monotone target reached _ _ included).trans (absorbs target reached)
      exact ⟨(mem_reachable_iff found source).mp listed,
        delivered.trans (within_joinAfter inOrder found family step)⟩
  exact holds.2

/-- A reachable label has a set after its instruction, and the state before it is
what the instruction makes of that set. -/
theorem exists_setsAfter (boundary : IndexSet bound)
    (transfer : Nat → IndexSet bound → IndexSet bound) (found : body.flow = .ok flow) {label : Nat}
    (reached : body.Reachable label) :
    ∃ after, (flow.setsAfter boundary transfer).at? label = some after ∧
      (flow.solveBackward boundary transfer).at? label = some (transfer label after) ∧
      ((flow.successors label).isEmpty = true → boundary.Within after) := by
  rcases setsAfter_of_reachable boundary transfer ((mem_reachable_iff found label).mpr reached) with
    ⟨after, here, atLast⟩
  refine ⟨after, here, ?_, atLast⟩
  rw [at?_solveBackward, here, Option.map_some]

private theorem reachable_of_solveBackward (found : body.flow = .ok flow) {label : Nat}
    (here : ∃ set, (flow.solveBackward boundary transfer).at? label = some set) :
    body.Reachable label := by
  rcases here with ⟨set, here⟩
  rw [at?_solveBackward, Option.map_eq_some_iff] at here
  rcases here with ⟨after, there, _⟩
  rw [← mem_reachable_iff found]
  exact setsAfter_holds boundary transfer (motive := fun label _ => label ∈ flow.reachable)
    (fun _ listed => listed) (fun _ _ _ left _ => left) (fun _ _ _ _ _ listed => listed) there

/-- What has arrived after an instruction contains the sets before its successors. -/
theorem joinAfter_within_setsAfter {program : Program} (inOrder : body.InOrder program)
    (found : body.flow = .ok flow) {label : Nat} (reached : body.Reachable label)
    {after : IndexSet bound} (here : (flow.setsAfter boundary transfer).at? label = some after) :
    (body.joinAfter boundary (stateOf (flow.solveBackward boundary transfer)) label).Within
      after := by
  by_cases isLast : (flow.successors label).isEmpty = true
  · rcases exists_setsAfter boundary transfer found reached with ⟨same, alsoHere, _, atLast⟩
    rw [joinAfter_of_last inOrder found _ isLast, Option.some.inj (here.symm.trans alsoHere)]
    exact atLast isLast
  · intro index member
    rcases (contains_joinAfter_iff inOrder found _ isLast index).mp member with
      ⟨target, step, present⟩
    rcases exists_setsAfter boundary transfer found (reached.next step) with
      ⟨atTarget, there, state, _⟩
    rcases setsAfter_edge boundary transfer found ((mem_reachable_iff found label).mpr reached)
      step there with ⟨same, alsoHere, included⟩
    rw [Option.some.inj (here.symm.trans alsoHere)]
    exact included index (stateOf_eq state ▸ present)

/-- The set after an instruction is exactly what the states before its successors
amount to.  A family that contains what the instructions make of it bounds what has
arrived, and by monotonicity the states are such a family themselves. -/
theorem setsAfter_eq {program : Program} (inOrder : body.InOrder program)
    (found : body.flow = .ok flow) (monotone : body.MonotoneTransfer transfer) {label : Nat}
    {after : IndexSet bound} (here : (flow.setsAfter boundary transfer).at? label = some after)
    (reached : body.Reachable label) :
    after =
      body.joinAfter boundary (stateOf (flow.solveBackward boundary transfer)) label := by
  apply IndexSet.Within.antisymm
  · refine setsAfter_within inOrder found monotone ?_ here
    intro other reachedOther
    rcases exists_setsAfter boundary transfer found reachedOther with
      ⟨otherAfter, there, state, _⟩
    rw [stateOf_eq state]
    exact monotone other reachedOther _ _
      (joinAfter_within_setsAfter inOrder found reachedOther there)
  · exact joinAfter_within_setsAfter inOrder found reached here

private theorem leastFamily_solveBackward {program : Program} (inOrder : body.InOrder program)
    (found : body.flow = .ok flow) (monotone : body.MonotoneTransfer transfer) :
    body.LeastFamily (body.SolvedBackward boundary transfer)
      (flow.solveBackward boundary transfer) := by
  constructor
  · intro label unreached
    exact at?_eq_none_of_unreached (reachable_of_solveBackward found) unreached
  · refine ⟨stateOf (flow.solveBackward boundary transfer), ?_, ?_, ?_⟩
    · intro label reached
      rcases exists_setsAfter boundary transfer found reached with ⟨after, here, state, _⟩
      rw [stateOf_eq state, ← setsAfter_eq inOrder found monotone here reached]
    · intro label reached
      rcases exists_setsAfter boundary transfer found reached with ⟨after, _, state, _⟩
      rw [stateOf_eq state, state]
    · intro other solved label reached
      rcases exists_setsAfter boundary transfer found reached with ⟨after, here, state, _⟩
      have absorbs : ∀ label, body.Reachable label →
          (transfer label (body.joinAfter boundary other label)).Within (other label) := by
        intro label reached
        rw [← solved label reached]
        exact .refl _
      rw [stateOf_eq state, solved label reached]
      exact monotone label reached _ _
        (setsAfter_within inOrder found monotone absorbs here)

/-- Propagation on a flow graph ends in both directions, and what has arrived then
is the least solution of the problem. -/
structure SolvesLeast (flow : Flow) (body : Body) (boundary : IndexSet bound)
    (transfer : Nat → IndexSet bound → IndexSet bound) : Prop where
  forwardEnds : (flow.forward transfer).EndsWith (flow.forwardStart boundary)
    (flow.solveForward boundary transfer)
  forwardLeast : body.LeastFamily (body.ClosedForward boundary transfer)
    (flow.solveForward boundary transfer)
  backwardEnds : ∃ after, (flow.backward transfer).EndsWith (flow.backwardProgress boundary) after ∧
    ∀ label, (flow.solveBackward boundary transfer).at? label =
      (after.at? label).map (transfer label)
  backwardLeast : body.LeastFamily (body.SolvedBackward boundary transfer)
    (flow.solveBackward boundary transfer)

/-- A valid body has a flow graph on which dataflow problems with monotone transfer
functions are solved least, whatever the universe is. -/
theorem exists_least_solutions (valid : body.IsValid) (boundary : IndexSet bound)
    (transfer : Nat → IndexSet bound → IndexSet bound)
    (monotone : body.MonotoneTransfer transfer) :
    ∃ flow, body.flow = .ok flow ∧ flow.SolvesLeast body boundary transfer := by
  rcases valid.inOrder with ⟨program, inOrder⟩
  rcases inOrder.exists_flow with ⟨flow, found⟩
  refine ⟨flow, found, ?_⟩
  exact
    { forwardEnds := Propagation.endsWith_run (flow.forward transfer) (flow.forwardStart boundary)
      forwardLeast := leastFamily_solveForward found monotone
      backwardEnds := ⟨flow.setsAfter boundary transfer,
        Propagation.endsWith_run (flow.backward transfer) (flow.backwardProgress boundary),
        at?_solveBackward boundary transfer⟩
      backwardLeast := leastFamily_solveBackward inOrder found monotone }

/-- A body with a loop, and with a label that control never arrives at. -/
def guardedLoop : Body :=
  { name := "loop"
    program := some (.ofDeclarations [] [])
    locals := [
      { name := "out", kind := .result, type := .unit },
      { name := "again", kind := .parameter, type := .bool }]
    code := [
      { instr := some (.branch 1 1 3) },
      { instr := some (.goto 0) },
      { instr := some (.goto 1) },
      { instr := some .ret }] }

/-- Every label adds its own number, except that the label after the loop adds the
last number once the first two are there.  This is monotone, but what becomes of a
union is not the union of what becomes of its parts. -/
def thresholdTransfer (label : Nat) (set : IndexSet 4) : IndexSet 4 :=
  if label = 3 then if set.contains 0 && set.contains 1 then set.insert 3 else set
  else set.insert label

private theorem thresholdTransfer_mono (label : Nat) {less more : IndexSet 4}
    (included : less.Within more) :
    (thresholdTransfer label less).Within (thresholdTransfer label more) := by
  have first := included 0
  have second := included 1
  intro index
  have here := included index
  unfold thresholdTransfer
  split
  · by_cases both : (less.contains 0 && less.contains 1) = true
    · have alsoBoth : (more.contains 0 && more.contains 1) = true := by
        rw [Bool.and_eq_true] at both ⊢
        exact ⟨first both.1, second both.2⟩
      grind [IndexSet.contains_insert]
    · grind [IndexSet.contains_insert]
  · grind [IndexSet.contains_insert]

theorem guardedLoop_solved_least :
    guardedLoop.IsValid ∧ guardedLoop.MonotoneTransfer thresholdTransfer ∧
      ∃ flow, guardedLoop.flow = .ok flow ∧
        flow.SolvesLeast guardedLoop (IndexSet.ofList 4 [2]) thresholdTransfer := by
  have valid : guardedLoop.IsValid := rfl
  have monotone : guardedLoop.MonotoneTransfer thresholdTransfer :=
    fun label _ _ _ included => thresholdTransfer_mono label included
  exact ⟨valid, monotone, exists_least_solutions valid _ _ monotone⟩

end Flow
end BorrowChecker
