import BorrowChecker.Proofs.Reachability
import BorrowChecker.Region.Matching
import Mathlib.Data.List.Basic

namespace BorrowChecker

/-!
Recorded demands.

Each way of extending an outlives graph is described by the demands it adds.
Numbers do not occur in these descriptions: an edge between two numbers is a
demand between the lifetimes that have them, and since edges stay among the
numbers given out so far, a new lifetime starts without any.
-/

/-- A list is what stands at its positions. -/
theorem filterMap_getElem?_range {α : Type} (members : List α) :
    (List.range members.length).filterMap (members[·]?) = members := by
  induction members with
  | nil => rfl
  | cons first rest inductionHypothesis =>
      rw [List.length_cons, List.range_succ_eq_map, List.filterMap_cons, List.filterMap_map]
      exact congrArg (first :: ·) inductionHypothesis

namespace NumberedGraph

theorem mem_arcList {graph : NumberedGraph} {source target : Nat} :
    (source, target) ∈ graph.arcList ↔
      ∃ targets, graph.arcs.get? source = some targets ∧ target ∈ targets.keys := by
  simp only [arcList, List.mem_flatMap, List.mem_map, Prod.exists, Prod.mk.injEq,
    ← Table.get?_eq_some_iff]
  constructor
  · rintro ⟨_, targets, found, _, listed, rfl, rfl⟩
    exact ⟨targets, found, listed⟩
  · rintro ⟨targets, found, listed⟩
    exact ⟨source, targets, found, target, listed, rfl, rfl⟩

namespace InOrder

variable {graph : NumberedGraph}

/-- A new lifetime has no edges, and the others keep theirs. -/
theorem outlives_node (inOrder : graph.InOrder) (lifetime long short : Lifetime) :
    (graph.node lifetime).2.outlives long short = graph.outlives long short := by
  have old {other : Lifetime} {number : Nat} (inside : number < graph.lifetimes.length)
      (numbered : (graph.node lifetime).2.numbers.get? other = some number) :
      graph.numbers.get? other = some number := by
    rw [(inOrder.node lifetime).inverse, inOrder.lifetimes_node] at numbered
    rw [inOrder.inverse]
    split at numbered
    · exact numbered
    · rwa [List.getElem?_append_left inside] at numbered
  rw [Bool.eq_iff_iff, outlives_eq_true_iff, outlives_eq_true_iff]
  simp only [arc_node]
  constructor
  · rintro ⟨source, target, ofLong, ofShort, edge⟩
    have inside := inOrder.bounded source target edge
    exact ⟨source, target, old inside.1 ofLong, old inside.2 ofShort, edge⟩
  · rintro ⟨source, target, ofLong, ofShort, edge⟩
    exact ⟨source, target, kept_number ofLong lifetime, kept_number ofShort lifetime, edge⟩

/-- An edge between the numbers of two lifetimes is a demand between them. -/
theorem outlives_connect (inOrder : graph.InOrder) {long short : Lifetime} {source target : Nat}
    (ofLong : graph.numbers.get? long = some source)
    (ofShort : graph.numbers.get? short = some target) (first second : Lifetime) :
    (graph.connect source target).outlives first second = true ↔
      graph.outlives first second = true ∨ (long ≠ short ∧ first = long ∧ second = short) := by
  have apart : source ≠ target ↔ long ≠ short := by
    refine not_congr ⟨fun same => ?_, fun same => ?_⟩
    · exact inOrder.number_unique ofLong (same ▸ ofShort)
    · rw [same, ofShort] at ofLong
      exact (Option.some.inj ofLong).symm
  rw [outlives_eq_true_iff, outlives_eq_true_iff, numbers_connect]
  simp only [arc_connect, and_or_left, exists_or, apart]
  refine or_congr_right ⟨?_, ?_⟩
  · rintro ⟨_, _, ofFirst, ofSecond, different, rfl, rfl⟩
    exact ⟨different, inOrder.number_unique ofFirst ofLong, inOrder.number_unique ofSecond ofShort⟩
  · rintro ⟨different, rfl, rfl⟩
    exact ⟨source, target, ofLong, ofShort, different, rfl, rfl⟩

theorem outlives_add (inOrder : graph.InOrder) (long short first second : Lifetime) :
    (graph.add long short).outlives first second = true ↔
      graph.outlives first second = true ∨ (long ≠ short ∧ first = long ∧ second = short) := by
  rw [add_eq, ((inOrder.node long).node short).outlives_connect
    (kept_number (number_node graph long) short) (number_node _ short),
    (inOrder.node long).outlives_node, inOrder.outlives_node]

theorem nodup_lifetimes (inOrder : graph.InOrder) : graph.lifetimes.Nodup := by
  refine List.pairwise_iff_getElem.mpr fun first second firstInside secondInside before same => ?_
  have ofFirst := (inOrder.inverse _ first).mpr (List.getElem?_eq_getElem firstInside)
  have ofSecond := (inOrder.inverse _ second).mpr (List.getElem?_eq_getElem secondInside)
  rw [same] at ofFirst
  exact absurd (Option.some.inj (ofFirst.symm.trans ofSecond)) (Nat.ne_of_lt before)

/-- What is stored are the edges. -/
theorem mem_arcList_iff (inOrder : graph.InOrder) {source target : Nat} :
    (source, target) ∈ graph.arcList ↔ graph.arc source target = true := by
  simp only [mem_arcList, Table.mem_keys_iff, arc_eq_true_iff]
  refine exists_congr fun targets => and_congr_right fun found => ?_
  constructor
  · rintro ⟨value, marked⟩
    exact inOrder.stored source targets found target value marked ▸ marked
  · intro marked
    exact ⟨true, marked⟩

/-- The lifetimes behind the edges of a lifetime, in the order of mention. -/
theorem shorter_eq (inOrder : graph.InOrder) (long : Lifetime) :
    graph.shorter long = graph.lifetimes.filter (graph.outlives long) := by
  unfold shorter
  split
  · rename_i unknown
    refine (List.filter_eq_nil_iff.mpr fun short _ => ?_).symm
    simp [outlives, unknown]
  · rename_i source ofLong
    conv_rhs => rw [← filterMap_getElem?_range graph.lifetimes]
    rw [successors, List.filterMap_filter, List.filter_filterMap]
    refine List.filterMap_congr fun target listed => ?_
    have there := List.getElem?_eq_getElem (List.mem_range.mp listed)
    have ofShort := (inOrder.inverse _ target).mpr there
    rw [there]
    simp [outlives, ofLong, ofShort, Option.filter]

end InOrder
end NumberedGraph

namespace OutlivesGraph

/-! ## The demands after each operation -/

@[simp] theorem outlives_empty (long short : Lifetime) : empty.outlives long short = false := rfl

@[simp] theorem outlives_register (graph : OutlivesGraph) (lifetime long short : Lifetime) :
    (graph.register lifetime).outlives long short = graph.outlives long short :=
  graph.inOrder.outlives_node lifetime long short

theorem outlives_registerAll (graph : OutlivesGraph) (lifetimes : List Lifetime)
    (long short : Lifetime) :
    (lifetimes.foldl register graph).outlives long short = graph.outlives long short := by
  induction lifetimes generalizing graph with
  | nil => rfl
  | cons first rest inductionHypothesis =>
      exact (inductionHypothesis (graph.register first)).trans (by simp)

private theorem lifetimes_register (graph : OutlivesGraph) (lifetime : Lifetime) :
    (graph.register lifetime).lifetimes =
      if lifetime ∈ graph.lifetimes then graph.lifetimes else graph.lifetimes ++ [lifetime] :=
  graph.inOrder.lifetimes_node lifetime

@[simp] theorem mem_lifetimes_register (graph : OutlivesGraph) (lifetime other : Lifetime) :
    other ∈ (graph.register lifetime).lifetimes ↔ other ∈ graph.lifetimes ∨ other = lifetime := by
  rw [lifetimes_register]
  split
  · rename_i known
    constructor
    · exact .inl
    · rintro (member | rfl)
      · exact member
      · exact known
  · simp

private theorem lifetimes_add (graph : OutlivesGraph) (long short : Lifetime) :
    (graph.add long short).lifetimes = ((graph.register long).register short).lifetimes := by
  change (((graph.node long).2.node short).2.connect _ _).lifetimes = _
  rw [NumberedGraph.lifetimes_connect]
  rfl

@[simp] theorem mem_lifetimes_add (graph : OutlivesGraph) (long short other : Lifetime) :
    other ∈ (graph.add long short).lifetimes ↔
      other ∈ graph.lifetimes ∨ other = long ∨ other = short := by
  rw [lifetimes_add, mem_lifetimes_register, mem_lifetimes_register, or_assoc]

theorem outlives_add (graph : OutlivesGraph) (long short first second : Lifetime) :
    (graph.add long short).outlives first second = true ↔
      graph.outlives first second = true ∨ (long ≠ short ∧ first = long ∧ second = short) :=
  graph.inOrder.outlives_add long short first second

theorem outlives_addAll (graph : OutlivesGraph) (demands : List Outlives)
    (long short : Lifetime) :
    (graph.addAll demands).outlives long short = true ↔
      graph.outlives long short = true ∨ (long ≠ short ∧ { long, short } ∈ demands) := by
  induction demands generalizing graph with
  | nil => simp [addAll]
  | cons first rest inductionHypothesis =>
      have others := inductionHypothesis (graph.add first.long first.short)
      change ((graph.add first.long first.short).addAll rest).outlives long short = true ↔ _
      rw [others, outlives_add, or_assoc]
      rcases first with ⟨firstLong, firstShort⟩
      simp only [List.mem_cons, Outlives.mk.injEq]
      grind

theorem outlives_equate (graph : OutlivesGraph) (left right long short : Lifetime) :
    (graph.equate left right).outlives long short = true ↔
      graph.outlives long short = true ∨ (left ≠ right ∧
        ((long = left ∧ short = right) ∨ (long = right ∧ short = left))) := by
  unfold equate
  rw [outlives_add, outlives_add]
  grind

theorem outlives_equateAll (graph : OutlivesGraph) (pairs : List (Lifetime × Lifetime))
    (long short : Lifetime) :
    (graph.equateAll pairs).outlives long short = true ↔
      graph.outlives long short = true ∨
        (long ≠ short ∧ ((long, short) ∈ pairs ∨ (short, long) ∈ pairs)) := by
  induction pairs generalizing graph with
  | nil => simp [equateAll]
  | cons first rest inductionHypothesis =>
      have others := inductionHypothesis (graph.equate first.1 first.2)
      change ((graph.equate first.1 first.2).equateAll rest).outlives long short = true ↔ _
      rw [others, outlives_equate]
      rcases first with ⟨left, right⟩
      simp only [List.mem_cons, Prod.mk.injEq]
      grind

/-- Both ends of a recorded demand were mentioned. -/
theorem mem_lifetimes_of_outlives {graph : OutlivesGraph} {long short : Lifetime}
    (recorded : graph.outlives long short = true) :
    long ∈ graph.lifetimes ∧ short ∈ graph.lifetimes := by
  rcases NumberedGraph.outlives_eq_true_iff.mp recorded with ⟨source, target, ofLong, ofShort, _⟩
  exact ⟨graph.inOrder.exists_number_iff.mp ⟨source, ofLong⟩,
    graph.inOrder.exists_number_iff.mp ⟨target, ofShort⟩⟩

theorem mem_shorter_iff (graph : OutlivesGraph) (long short : Lifetime) :
    short ∈ graph.shorter long ↔ graph.outlives long short = true := by
  rw [graph.inOrder.shorter_eq, List.mem_filter, and_iff_right_iff_imp]
  exact fun recorded => (mem_lifetimes_of_outlives recorded).2

/-! ## Chains of demands -/

/-- One lifetime outlives another through any number of recorded demands. -/
inductive Outlasts (graph : OutlivesGraph) : Lifetime → Lifetime → Prop where
  | refl (lifetime : Lifetime) : Outlasts graph lifetime lifetime
  | step {long middle short : Lifetime} (edge : graph.outlives long middle = true)
      (rest : Outlasts graph middle short) : Outlasts graph long short

namespace Outlasts

theorem trans {graph : OutlivesGraph} {long middle short : Lifetime}
    (front : graph.Outlasts long middle) (back : graph.Outlasts middle short) :
    graph.Outlasts long short := by
  induction front with
  | refl _ => exact back
  | step edge _ inductionHypothesis => exact .step edge (inductionHypothesis back)

/-- Chains of demands stay where demands do. -/
theorem mono {before after : OutlivesGraph}
    (kept : ∀ long short, before.outlives long short = true → after.outlives long short = true)
    {long short : Lifetime} (outlasts : before.Outlasts long short) :
    after.Outlasts long short := by
  induction outlasts with
  | refl lifetime => exact .refl lifetime
  | step edge _ inductionHypothesis => exact .step (kept _ _ edge) inductionHypothesis

end Outlasts

/-! ## Graphs as they are built -/

/-- A way of extending a graph. -/
inductive Operation where
  | register (lifetime : Lifetime)
  | add (long short : Lifetime)
  deriving DecidableEq, Repr

/-- The graph after an operation. -/
def perform (graph : OutlivesGraph) : Operation → OutlivesGraph
  | .register lifetime => graph.register lifetime
  | .add long short => graph.add long short

def built (operations : List Operation) : OutlivesGraph :=
  operations.foldl perform empty

end OutlivesGraph
end BorrowChecker
