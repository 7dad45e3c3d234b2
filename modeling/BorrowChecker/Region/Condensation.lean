import BorrowChecker.Control.Digraph
import BorrowChecker.Region.IntSet
import BorrowChecker.Sequences

namespace BorrowChecker

/-!
Propagating sets over the components of a graph.

Nodes that can be reached from each other form a component, and all nodes of a
component share one set.  The sets start with what their members contribute.
Then each component takes over the sets of the components that its arcs lead to,
one arc after the other, and this is repeated until nothing changes.  A set never
holds a number that no set held at the start, so every repetition that changes
something comes closer to the end.
-/

namespace Digraph

variable {size : Nat}

/-- The arcs, by increasing source and target. -/
def arcs (graph : Digraph size) : List (Nat × Nat) :=
  (List.range size).flatMap fun source =>
    (graph.neighbours source).map fun target => (source, target)

/-- For each node the nodes that can be reached from it. -/
def reachTable (graph : Digraph size) : List (IndexSet size) :=
  (List.range size).map fun node => IndexSet.ofList size (graph.reached node)

def isReached (table : List (IndexSet size)) (source target : Nat) : Bool :=
  table[source]?.any fun reached => reached.contains target

/-- The nodes that can be reached from a node and from which it can be reached. -/
def componentOf (table : List (IndexSet size)) (node : Nat) : List Nat :=
  (List.range size).filter fun other => isReached table node other && isReached table other node

/-- The components, each with its nodes in increasing order. -/
def components (graph : Digraph size) : List (List Nat) :=
  ((List.range size).map (componentOf graph.reachTable)).eraseDups

end Digraph

namespace Condensation

def replaceAt (members : List Nat) (position value : Nat) : Except Fault (List Nat) :=
  if position < members.length then .ok (members.set position value) else .error .absent

/-- Each node of a component with the position of the component. -/
def memberships (components : List (List Nat)) : List (Nat × Nat) :=
  components.zipIdx.flatMap fun (component, position) =>
    component.map fun node => (node, position)

/-- For each node the position of its component. -/
def owners (size : Nat) (components : List (List Nat)) : Except Fault (List Nat) :=
  (memberships components).foldlM (fun found entry => replaceAt found entry.1 entry.2)
    (List.replicate size 0)

/-- What the nodes of a component contribute together. -/
def gather (contributed : Nat → Except Fault IntSet) (component : List Nat) :
    Except Fault IntSet :=
  component.foldlM (fun set node => return set.union (← contributed node)) IntSet.empty

/-- The components that an arc connects. -/
def ownerArc (owners : List Nat) (arc : Nat × Nat) : Except Fault (Nat × Nat) := do
  return (← requireAt owners arc.1, ← requireAt owners arc.2)

/-- The graph of the components: arcs within one of them are left out. -/
def condense (owners : List Nat) (count : Nat) (arcs : List (Nat × Nat)) :
    Except Fault (Digraph count) := do
  let links ← arcs.mapM (ownerArc owners)
  Digraph.ofArcs count (links.filter fun link => link.1 != link.2)

/-- Let a component take over the set that an arc leads to.  The flag says
whether anything has changed so far. -/
def absorb (state : Bool × List IntSet) (arc : Nat × Nat) : Except Fault (Bool × List IntSet) := do
  let set ← requireAt state.2 arc.1
  let joined := set.union (← requireAt state.2 arc.2)
  return (state.1 || joined != set, state.2.set arc.1 joined)

def sweep (arcs : List (Nat × Nat)) (sets : List IntSet) : Except Fault (Bool × List IntSet) :=
  arcs.foldlM absorb (false, sets)

/-! ## The sets come to rest -/

/-- All numbers in any of some sets. -/
def everything (sets : List IntSet) : IntSet := sets.foldl IntSet.union IntSet.empty

/-- How many numbers sets lack of those that are in any of them. -/
def missing (sets : List IntSet) : Nat :=
  (sets.flatMap fun set => (everything sets).toList.filter fun value => !set.contains value).length

theorem contains_everything (sets : List IntSet) (value : Int) :
    (everything sets).contains value = true ↔ ∃ set ∈ sets, set.contains value = true := by
  have members := IntSet.contains_foldl_union sets id IntSet.empty value
  simpa [everything] using members

theorem absorb_eq_ok {state after : Bool × List IntSet} {arc : Nat × Nat} :
    absorb state arc = .ok after ↔
      ∃ set other, state.2[arc.1]? = some set ∧ state.2[arc.2]? = some other ∧
        after = (state.1 || set.union other != set, state.2.set arc.1 (set.union other)) := by
  simp only [absorb, bind_eq_ok, requireAt_natCast, pure, Except.pure, Except.ok.injEq]
  constructor
  · rintro ⟨set, ofSource, other, ofTarget, rfl⟩
    exact ⟨set, other, ofSource, ofTarget, rfl⟩
  · rintro ⟨set, other, ofSource, ofTarget, rfl⟩
    exact ⟨set, ofSource, other, ofTarget, rfl⟩

theorem set_eq_self {sets : List IntSet} {position : Nat} {set : IntSet}
    (there : sets[position]? = some set) : sets.set position set = sets := by
  rcases List.getElem?_eq_some_iff.mp there with ⟨inside, rfl⟩
  exact List.set_getElem_self inside

/-- Taking over a set of the list leads to no new numbers. -/
theorem everything_set {sets : List IntSet} {first second : Nat} {set other : IntSet}
    (ofFirst : sets[first]? = some set) (ofSecond : sets[second]? = some other) :
    everything (sets.set first (set.union other)) = everything sets := by
  refine IntSet.ext_contains fun value => ?_
  rw [contains_everything, contains_everything]
  constructor
  · rintro ⟨changed, listed, member⟩
    rcases List.mem_or_eq_of_mem_set listed with old | rfl
    · exact ⟨changed, old, member⟩
    · rw [IntSet.contains_union, Bool.or_eq_true] at member
      rcases member with inSet | inOther
      · exact ⟨set, List.mem_of_getElem? ofFirst, inSet⟩
      · exact ⟨other, List.mem_of_getElem? ofSecond, inOther⟩
  · rintro ⟨old, listed, member⟩
    rcases List.mem_iff_getElem?.mp listed with ⟨position, there⟩
    by_cases here : position = first
    · subst here
      rcases Option.some.inj (there.symm.trans ofFirst) with rfl
      have inside := (List.getElem?_eq_some_iff.mp there).1
      exact ⟨_, List.mem_iff_getElem?.mpr ⟨position, by simp [inside]; rfl⟩, by simp [member]⟩
    · exact ⟨old, List.mem_iff_getElem?.mpr ⟨position, by
        rw [List.getElem?_set_ne (Ne.symm here), there]⟩, member⟩

private theorem length_flatMap_set {members : List IntSet} {position : Nat} {old : IntSet}
    (there : members[position]? = some old) (new : IntSet) (part : IntSet → List Int) :
    ((members.set position new).flatMap part).length + (part old).length =
      (members.flatMap part).length + (part new).length := by
  induction members generalizing position with
  | nil => simp at there
  | cons first rest inductionHypothesis =>
      cases position with
      | zero =>
          simp only [List.getElem?_cons_zero, Option.some.injEq] at there
          simp only [there, List.set_cons_zero, List.flatMap_cons, List.length_append]
          omega
      | succ position =>
          have others := @inductionHypothesis position (by simpa using there)
          simp only [List.set_cons_succ, List.flatMap_cons, List.length_append]
          omega

/-- A set that grows within the numbers there are lacks fewer of them. -/
theorem lacks_fewer {all set other : IntSet}
    (inside : ∀ value, other.contains value = true → all.contains value = true)
    (grown : set.union other ≠ set) :
    (all.toList.filter fun value => !(set.union other).contains value).length <
      (all.toList.filter fun value => !set.contains value).length := by
  have twice : (all.toList.filter fun value => !(set.union other).contains value) =
      (all.toList.filter fun value => !set.contains value).filter fun value =>
        !other.contains value := by
    rw [List.filter_filter]
    refine List.filter_congr fun value _ => ?_
    simp [Bool.and_comm]
  have gained : ∃ value, other.contains value = true ∧ ¬ set.contains value = true := by
    refine Classical.byContradiction fun none => grown (IntSet.ext_contains fun value => ?_)
    rw [IntSet.contains_union, Bool.or_eq_true]
    refine ⟨fun member => member.elim id fun inOther => ?_, .inl⟩
    exact Classical.byContradiction fun outside => none ⟨value, inOther, outside⟩
  rcases gained with ⟨value, inOther, outside⟩
  rw [twice, List.length_filter_lt_length_iff_exists]
  refine ⟨value, List.mem_filter.mpr ⟨?_, by simpa using outside⟩, by simpa using inOther⟩
  exact (IntSet.mem_toList_iff all value).mpr (inside value inOther)

/-- What a sweep has done so far: nothing yet, or the sets lack fewer numbers. -/
structure Progress (start : List IntSet) (state : Bool × List IntSet) : Prop where
  same : everything state.2 = everything start
  still : state.1 = false → state.2 = start
  closer : state.1 = true → missing state.2 < missing start

theorem Progress.absorb {start : List IntSet} {state after : Bool × List IntSet} {arc : Nat × Nat}
    (progress : Progress start state) (absorbed : absorb state arc = .ok after) :
    Progress start after := by
  rcases absorb_eq_ok.mp absorbed with ⟨set, other, ofSource, ofTarget, rfl⟩
  have unchanged := everything_set ofSource ofTarget
  by_cases grown : set.union other = set
  · simpa [grown, set_eq_self ofSource] using progress
  · have inside : ∀ value, other.contains value = true →
        (everything state.2).contains value = true := fun value member =>
      (contains_everything _ _).mpr ⟨other, List.mem_of_getElem? ofTarget, member⟩
    have fewer := lacks_fewer inside grown
    have lengths := length_flatMap_set ofSource (set.union other) fun set =>
      (everything state.2).toList.filter fun value => !set.contains value
    have smaller : missing (state.2.set arc.1 (set.union other)) < missing state.2 := by
      unfold missing
      rw [unchanged]
      omega
    have notLarger : missing state.2 ≤ missing start := by
      cases changed : state.1 with
      | false => exact Nat.le_of_eq (congrArg missing (progress.still changed))
      | true => exact Nat.le_of_lt (progress.closer changed)
    refine ⟨unchanged.trans progress.same, ?_, fun _ => Nat.lt_of_lt_of_le smaller notLarger⟩
    simp [grown]

theorem progress_sweep {arcs : List (Nat × Nat)} {sets : List IntSet}
    {after : Bool × List IntSet} (swept : sweep arcs sets = .ok after) : Progress sets after := by
  refine foldlM_preserves (motive := Progress sets) swept ⟨rfl, fun _ => rfl, nofun⟩ ?_
  intro current progress arc _ next absorbed
  exact progress.absorb absorbed

/-- Sweep until nothing changes. -/
def settle (arcs : List (Nat × Nat)) (sets : List IntSet) : Except Fault (List IntSet) :=
  match _ : sweep arcs sets with
  | .error fault => .error fault
  | .ok (false, after) => .ok after
  | .ok (true, after) => settle arcs after
termination_by missing sets
decreasing_by exact (progress_sweep ‹_›).closer rfl

/-- For each node the numbers contributed by the nodes that can be reached from it.
`search` finds the components of a graph. -/
def propagate (search : (size : Nat) → Digraph size → List (List Nat)) (size : Nat)
    (arcs : List (Nat × Nat)) (contributed : Nat → Except Fault IntSet) :
    Except Fault (List IntSet) := do
  let components := search size (← Digraph.ofArcs size arcs)
  let owners ← owners size components
  let gathered ← components.mapM (gather contributed)
  let links ← condense owners components.length arcs
  let settled ← settle links.arcs gathered
  owners.mapM fun (owner : Nat) => requireAt settled owner

end Condensation
end BorrowChecker
