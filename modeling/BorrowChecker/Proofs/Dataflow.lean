import BorrowChecker.Dataflow.Solver
import BorrowChecker.Proofs.ControlFlow
import BorrowChecker.Proofs.Propagation

namespace BorrowChecker
namespace Flow

/-!
Solutions of dataflow problems on the control flow of a body.

A forward solution gives exactly the reachable labels a set, contains what flows
along every edge, and contains nothing that no walk accounts for.  The last part
is made precise for one index at a time: if what becomes of an index at a label
does not depend on the other members of the set, then the index is in the set at
a label if and only if some walk from the entry puts it there.
-/

variable {bound : Nat} {body : Body} {flow : Flow}

theorem at?_labels_map (flow : Flow) (initial : Nat → Option (IndexSet bound)) (label : Nat) :
    Arrivals.at? (flow.labels.map initial) label =
      if label < flow.size then initial label else none := by
  unfold Arrivals.at? labels
  by_cases inside : label < flow.size
  · simp [inside]
  · simp [inside]

/-! ## Forward -/

section Forward

variable (boundary : IndexSet bound) (transfer : Nat → IndexSet bound → IndexSet bound)

private theorem length_solveForward : (flow.solveForward boundary transfer).length = flow.size := by
  unfold solveForward
  rw [Propagation.length_run]
  simp [labels]

theorem solveForward_entry (found : body.flow = .ok flow) :
    ∃ set, (flow.solveForward boundary transfer).at? flow.entry = some set ∧
      boundary.Within set := by
  unfold solveForward
  refine Propagation.grows_run _ _ flow.entry boundary ?_
  rw [at?_labels_map, if_pos (entry_lt_size found), if_pos rfl]

/-- What an instruction makes of its set is contained in the set at each of its
successors. -/
theorem solveForward_edge (found : body.flow = .ok flow) {source target : Nat}
    {set : IndexSet bound}
    (here : (flow.solveForward boundary transfer).at? source = some set)
    (step : body.Edge source target) :
    ∃ later, (flow.solveForward boundary transfer).at? target = some later ∧
      (transfer source set).Within later := by
  have edge := (mem_successors_iff found source target).mpr step
  have inside := (lt_size_of_mem_successors found edge).2
  refine Propagation.delivered_run _ _ ?_ here target edge ?_
  · intro label initial there
    left
    rw [at?_labels_map] at there
    have atEntry : label = flow.entry := by
      split at there
      · split at there
        · assumption
        · simp at there
      · simp at there
    exact (Worklist.mem_push _ _ _).mpr (.inr atEntry)
  · rw [← solveForward, length_solveForward]
    exact inside

/-- What holds of the boundary at the entry, and is kept along edges and by
joining, holds at every label. -/
theorem solveForward_holds {motive : Nat → IndexSet bound → Prop}
    (atEntry : motive flow.entry boundary)
    (joined : ∀ label left right, motive label left → motive label right →
      motive label (left.union right))
    (passed : ∀ source set target, motive source set → target ∈ flow.successors source →
      motive target (transfer source set))
    {label : Nat} {set : IndexSet bound}
    (here : (flow.solveForward boundary transfer).at? label = some set) : motive label set := by
  refine Propagation.run_holds _ _ ?_ joined passed here
  intro start initial there
  rw [at?_labels_map] at there
  split at there
  · split at there
    · rename_i same
      rcases Option.some.inj there with rfl
      exact same ▸ atEntry
    · simp at there
  · simp at there

/-- Exactly the reachable labels have a set. -/
theorem solveForward_isSome_iff (found : body.flow = .ok flow) (label : Nat) :
    (∃ set, (flow.solveForward boundary transfer).at? label = some set) ↔
      body.Reachable label := by
  constructor
  · rintro ⟨set, here⟩
    refine solveForward_holds boundary transfer (motive := fun label _ => body.Reachable label)
      ⟨[], entry_eq found ▸ .here⟩ (fun _ _ _ left _ => left) ?_ here
    intro source _ target reached edge
    exact reached.next ((mem_successors_iff found source target).mp edge)
  · rintro ⟨labels, walk⟩
    rw [← entry_eq found] at walk
    induction walk with
    | here =>
        rcases solveForward_entry boundary transfer found with ⟨set, here, _⟩
        exact ⟨set, here⟩
    | next _ step inductionHypothesis =>
        rcases inductionHypothesis with ⟨set, here⟩
        rcases solveForward_edge boundary transfer found here step with ⟨later, there, _⟩
        exact ⟨later, there⟩

/-- What becomes of one index on a walk, if `effect` says what each label does to
it. -/
def carry (effect : Nat → Bool → Bool) (present : Bool) (labels : List Nat) : Bool :=
  labels.foldl (fun present label => effect label present) present

theorem carry_append_singleton (effect : Nat → Bool → Bool) (present : Bool) (labels : List Nat)
    (label : Nat) :
    carry effect present (labels ++ [label]) = effect label (carry effect present labels) := by
  simp [carry]

/-- An index that every reachable label treats on its own is in the set at a label
exactly if some walk from the entry leaves it present. -/
theorem contains_solveForward_iff (found : body.flow = .ok flow) (index : Nat)
    (effect : Nat → Bool → Bool)
    (acts : ∀ label, body.Reachable label → ∀ set,
      (transfer label set).contains index = effect label (set.contains index))
    (monotone : ∀ label less more, (less = true → more = true) →
      effect label less = true → effect label more = true)
    {label : Nat} {set : IndexSet bound}
    (here : (flow.solveForward boundary transfer).at? label = some set) :
    set.contains index = true ↔ ∃ labels, Walk body.Edge body.entry.toNat labels label ∧
      carry effect (boundary.contains index) labels = true := by
  rw [← entry_eq found]
  constructor
  · intro member
    let accounted (label : Nat) (set : IndexSet bound) : Prop :=
      (∃ labels, Walk body.Edge flow.entry labels label) ∧
        (set.contains index = true → ∃ labels, Walk body.Edge flow.entry labels label ∧
          carry effect (boundary.contains index) labels = true)
    have holds : accounted label set := by
      refine solveForward_holds boundary transfer ⟨⟨[], .here⟩, fun present => ⟨[], .here, present⟩⟩
        ?_ ?_ here
      · rintro _ left right ⟨arrives, ofLeft⟩ ⟨_, ofRight⟩
        refine ⟨arrives, fun present => ?_⟩
        rw [IndexSet.contains_union, Bool.or_eq_true] at present
        exact present.elim ofLeft ofRight
      · rintro source before target ⟨⟨labels, walk⟩, ofBefore⟩ edge
        have step := (mem_successors_iff found source target).mp edge
        refine ⟨⟨_, walk.next step⟩, fun present => ?_⟩
        rw [acts source ⟨labels, entry_eq found ▸ walk⟩] at present
        by_cases was : before.contains index = true
        · rcases ofBefore was with ⟨way, walked, carried⟩
          refine ⟨_, walked.next step, ?_⟩
          rw [carry_append_singleton]
          exact monotone source _ _ (fun _ => carried) present
        · refine ⟨_, walk.next step, ?_⟩
          rw [carry_append_singleton]
          exact monotone source _ _ (fun now => absurd now was) present
    exact holds.2 member
  · rintro ⟨labels, walk, carried⟩
    induction walk generalizing set with
    | here =>
        rcases solveForward_entry boundary transfer found with ⟨atEntry, there, included⟩
        have sameSet : atEntry = set := Option.some.inj (there.symm.trans here)
        subst sameSet
        exact included index carried
    | next before step inductionHypothesis =>
        rename_i source target
        have reached : body.Reachable source := ⟨_, entry_eq found ▸ before⟩
        rcases (solveForward_isSome_iff boundary transfer found source).mpr
          reached with ⟨earlier, there⟩
        rcases solveForward_edge boundary transfer found there step with ⟨later, arrived, included⟩
        have sameSet : later = set := Option.some.inj (arrived.symm.trans here)
        subst sameSet
        apply included index
        rw [acts source reached]
        rw [carry_append_singleton] at carried
        exact monotone source _ _ (inductionHypothesis there) carried

section Monotone

variable (monotone : ∀ label {less more : IndexSet bound}, less.Within more →
  (transfer label less).Within (transfer label more))

include monotone

/-- What a walk makes of the boundary, without any joins, is contained in the set
at its end. -/
theorem foldl_within_solveForward (found : body.flow = .ok flow) {labels : List Nat} {label : Nat}
    (walk : Walk body.Edge body.entry.toNat labels label) :
    ∃ set, (flow.solveForward boundary transfer).at? label = some set ∧
      (labels.foldl (fun set label => transfer label set) boundary).Within set := by
  rw [← entry_eq found] at walk
  induction walk with
  | here => exact solveForward_entry boundary transfer found
  | next _ step inductionHypothesis =>
      rcases inductionHypothesis with ⟨set, here, included⟩
      rcases solveForward_edge boundary transfer found here step with ⟨later, there, passedOn⟩
      refine ⟨later, there, ?_⟩
      rw [List.foldl_append, List.foldl_cons, List.foldl_nil]
      exact (monotone _ included).trans passedOn

/-- What is kept along edges has to be shown for sets only that are contained in
the solution. -/
theorem solveForward_holds_within (found : body.flow = .ok flow)
    {motive : Nat → IndexSet bound → Prop} (atEntry : motive flow.entry boundary)
    (joined : ∀ label left right, motive label left → motive label right →
      motive label (left.union right))
    (passed : ∀ source set final target, motive source set →
      (flow.solveForward boundary transfer).at? source = some final → set.Within final →
      body.Edge source target → motive target (transfer source set))
    {label : Nat} {set : IndexSet bound}
    (here : (flow.solveForward boundary transfer).at? label = some set) : motive label set := by
  let bounded (label : Nat) (set : IndexSet bound) : Prop :=
    motive label set ∧ ∃ final, (flow.solveForward boundary transfer).at? label = some final ∧
      set.Within final
  have holds : bounded label set := by
    refine solveForward_holds boundary transfer
      ⟨atEntry, solveForward_entry boundary transfer found⟩ ?_ ?_ here
    · rintro label left right ⟨ofLeft, final, there, leftWithin⟩
        ⟨ofRight, other, alsoThere, rightWithin⟩
      have sameSet : other = final := Option.some.inj (alsoThere.symm.trans there)
      rw [sameSet] at rightWithin
      exact ⟨joined label left right ofLeft ofRight, final, there, leftWithin.union rightWithin⟩
    · rintro source before target ⟨ofBefore, final, there, included⟩ edge
      have step := (mem_successors_iff found source target).mp edge
      rcases solveForward_edge boundary transfer found there step with ⟨later, arrived, passedOn⟩
      exact ⟨passed source before final target ofBefore there included step, later, arrived,
        (monotone source included).trans passedOn⟩
  exact holds.1

/-- If it depends on nothing but the index itself whether an instruction keeps an
index of the solution, then joining does not matter: the index is in the set at a
label exactly if some walk from the entry, followed by itself, ends with it. -/
theorem contains_solveForward_iff_foldl (found : body.flow = .ok flow) (index : Nat)
    (separate : ∀ source final, (flow.solveForward boundary transfer).at? source = some final →
      ∀ set other : IndexSet bound, set.Within final →
        (set.contains index = true → other.contains index = true) →
          (transfer source set).contains index = true →
            (transfer source other).contains index = true)
    {label : Nat} {set : IndexSet bound}
    (here : (flow.solveForward boundary transfer).at? label = some set) :
    set.contains index = true ↔ ∃ labels, Walk body.Edge body.entry.toNat labels label ∧
      (labels.foldl (fun set label => transfer label set) boundary).contains index = true := by
  constructor
  · let accounted (label : Nat) (set : IndexSet bound) : Prop :=
      body.Reachable label ∧ (set.contains index = true →
        ∃ labels, Walk body.Edge body.entry.toNat labels label ∧
          (labels.foldl (fun set label => transfer label set) boundary).contains index = true)
    have holds : accounted label set := by
      refine solveForward_holds_within boundary transfer monotone found ?_ ?_ ?_ here
      · rw [entry_eq found]
        exact ⟨⟨[], .here⟩, fun present => ⟨[], .here, present⟩⟩
      · rintro _ left right ⟨reached, ofLeft⟩ ⟨_, ofRight⟩
        refine ⟨reached, fun present => ?_⟩
        rw [IndexSet.contains_union, Bool.or_eq_true] at present
        exact present.elim ofLeft ofRight
      · rintro source before final target ⟨reached, ofBefore⟩ solved included step
        refine ⟨reached.next step, fun present => ?_⟩
        have follows : ∃ labels, Walk body.Edge body.entry.toNat labels source ∧
            (before.contains index = true →
              (labels.foldl (fun set label => transfer label set) boundary).contains index =
                true) := by
          by_cases was : before.contains index = true
          · rcases ofBefore was with ⟨labels, walk, ends⟩
            exact ⟨labels, walk, fun _ => ends⟩
          · rcases reached with ⟨labels, walk⟩
            exact ⟨labels, walk, fun now => absurd now was⟩
        rcases follows with ⟨labels, walk, carried⟩
        refine ⟨_, walk.next step, ?_⟩
        rw [List.foldl_append, List.foldl_cons, List.foldl_nil]
        exact separate source final solved before _ included carried present
    exact holds.2
  · rintro ⟨labels, walk, present⟩
    rcases foldl_within_solveForward boundary transfer monotone found walk with
      ⟨final, there, included⟩
    rw [← Option.some.inj (there.symm.trans here)]
    exact included index present

end Monotone
end Forward

/-! ## Backward -/

section Backward

variable (boundary : IndexSet bound) (transfer : Nat → IndexSet bound → IndexSet bound)

def setsAfter (flow : Flow) : Arrivals bound :=
  Propagation.run
    { targets := fun label => (flow.predecessors label).filter fun source =>
        flow.reachable.contains source
      transfer }
    { arrivals := flow.backwardStart flow.reachable boundary
      work := .ofList flow.reachable.reverse }

theorem at?_backwardStart (label : Nat) :
    (flow.backwardStart flow.reachable boundary).at? label =
      if label ∈ flow.reachable then
        some (if (flow.successors label).isEmpty then boundary else IndexSet.empty)
      else none := by
  unfold backwardStart
  rw [at?_labels_map]
  by_cases reached : label ∈ flow.reachable
  · have inside : label < flow.size := List.mem_range.mp (List.mem_filter.mp reached).1
    simp [reached, inside]
  · simp [reached]

/-- The set before an instruction is the outcome of the set after it. -/
theorem at?_solveBackward (label : Nat) :
    (flow.solveBackward boundary transfer).at? label =
      ((flow.setsAfter boundary transfer).at? label).map (transfer label) := by
  unfold solveBackward
  rw [at?_labels_map]
  split
  · rfl
  · rename_i outside
    have absent : (flow.setsAfter boundary transfer).at? label = none := by
      rw [← Option.not_isSome_iff_eq_none, Option.isSome_iff_exists]
      rintro ⟨set, here⟩
      have inside := Arrivals.lt_length_of_at? here
      rw [setsAfter, Propagation.length_run] at inside
      simp only [backwardStart, labels, List.length_map, List.length_range] at inside
      exact outside inside
    simp [absent]

theorem setsAfter_of_reachable {label : Nat} (reached : label ∈ flow.reachable) :
    ∃ after, (flow.setsAfter boundary transfer).at? label = some after ∧
      ((flow.successors label).isEmpty = true → boundary.Within after) := by
  have start := (at?_backwardStart boundary label).trans (if_pos reached)
  have grown : ∃ after, (flow.setsAfter boundary transfer).at? label = some after ∧
      IndexSet.Within _ after := Propagation.grows_run _ _ label _ start
  rcases grown with ⟨after, here, included⟩
  refine ⟨after, here, fun isLast => ?_⟩
  rwa [if_pos isLast] at included

/-- The set before a successor is contained in the set after an instruction. -/
theorem setsAfter_edge (found : body.flow = .ok flow) {source target : Nat}
    {atTarget : IndexSet bound} (reached : source ∈ flow.reachable)
    (step : body.Edge source target)
    (there : (flow.setsAfter boundary transfer).at? target = some atTarget) :
    ∃ after, (flow.setsAfter boundary transfer).at? source = some after ∧
      (transfer target atTarget).Within after := by
  refine Propagation.delivered_run _ _ ?_ there source ?_ ?_
  · intro label set here
    left
    rw [at?_backwardStart] at here
    split at here
    · exact (Worklist.mem_ofList _ _).mpr (List.mem_reverse.mpr ‹_›)
    · simp at here
  · exact List.mem_filter.mpr ⟨(mem_predecessors_iff found source target).mpr step,
      by simpa using reached⟩
  · rw [Propagation.length_run]
    simpa [backwardStart, labels] using List.mem_range.mp (List.mem_filter.mp reached).1

/-- What holds initially after every reachable label, and is kept against edges
and by joining, holds after every label. -/
theorem setsAfter_holds {motive : Nat → IndexSet bound → Prop}
    (initially : ∀ label ∈ flow.reachable,
      motive label (if (flow.successors label).isEmpty then boundary else IndexSet.empty))
    (joined : ∀ label left right, motive label left → motive label right →
      motive label (left.union right))
    (passed : ∀ target set source, motive target set → source ∈ flow.predecessors target →
      source ∈ flow.reachable → motive source (transfer target set))
    {label : Nat} {set : IndexSet bound}
    (here : (flow.setsAfter boundary transfer).at? label = some set) : motive label set := by
  refine Propagation.run_holds _ _ ?_ joined ?_ here
  · intro start initial there
    rw [at?_backwardStart] at there
    split at there
    · rcases Option.some.inj there with rfl
      exact initially start ‹_›
    · simp at there
  · intro target held source holds edge
    rcases List.mem_filter.mp edge with ⟨incoming, reached⟩
    exact passed target held source holds incoming (by simpa using reached)

end Backward
end Flow
end BorrowChecker
