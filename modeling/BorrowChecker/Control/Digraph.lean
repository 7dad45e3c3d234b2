import BorrowChecker.Control.Reach
import BorrowChecker.Dataflow.IndexSet
import BorrowChecker.Fault

namespace BorrowChecker

/-!
Directed graphs over numbered nodes.

The nodes are the numbers below a size that is fixed when the graph is made.
Each node has the set of nodes that its arcs lead to, so an arc that is added
again changes nothing, and neighbours are listed in increasing order.  An arc
that would leave the nodes is refused.
-/

/-- A graph over the numbers below `size`: for each of them, where its arcs lead. -/
structure Digraph (size : Nat) where
  rows : List (IndexSet size)
  complete : rows.length = size
  deriving DecidableEq, Repr

namespace Digraph

variable {size : Nat}

def unconnected (size : Nat) : Digraph size :=
  ⟨List.replicate size IndexSet.empty, List.length_replicate⟩

instance : Inhabited (Digraph size) := ⟨unconnected size⟩

/-- The nodes that the arcs of a node lead to, in increasing order. -/
def neighbours (graph : Digraph size) (node : Nat) : List Nat :=
  (graph.rows[node]?.map IndexSet.toList).getD []

def add (graph : Digraph size) (source target : Int) : Except Fault (Digraph size) :=
  if !inRange size target then .error (.strayLabel target)
  else if !inRange size source then .error .absent
  else .ok ⟨graph.rows.modify source.toNat (IndexSet.insert · target.toNat),
    by rw [List.length_modify, graph.complete]⟩

def ofArcs (size : Nat) (arcs : List (Nat × Nat)) : Except Fault (Digraph size) :=
  arcs.foldlM (fun graph arc => graph.add arc.1 arc.2) (unconnected size)

/-- The nodes that can be reached from a node, nearest first and itself
included. -/
def reached (graph : Digraph size) (start : Nat) : List Nat :=
  Reach.closure graph.neighbours (List.range size) start

/-! ## Neighbours -/

theorem mem_neighbours {graph : Digraph size} {source target : Nat} :
    target ∈ graph.neighbours source ↔
      ∃ row, graph.rows[source]? = some row ∧ row.contains target = true := by
  unfold neighbours
  cases graph.rows[source]? <;> simp

theorem nodup_neighbours (graph : Digraph size) (node : Nat) : (graph.neighbours node).Nodup := by
  unfold neighbours
  cases graph.rows[node]? with
  | none => exact List.nodup_nil
  | some row => exact List.nodup_range.filter _

/-- Arcs stay among the nodes. -/
theorem lt_size_of_mem_neighbours {graph : Digraph size} {source target : Nat}
    (arc : target ∈ graph.neighbours source) : source < size ∧ target < size := by
  rcases mem_neighbours.mp arc with ⟨row, there, member⟩
  have inside := (List.getElem?_eq_some_iff.mp there).1
  rw [graph.complete] at inside
  exact ⟨inside, IndexSet.lt_of_contains member⟩

@[simp] theorem neighbours_unconnected (node : Nat) : (unconnected size).neighbours node = [] := by
  rw [List.eq_nil_iff_forall_not_mem]
  intro target arc
  rcases mem_neighbours.mp arc with ⟨row, there, member⟩
  rw [(List.mem_replicate.mp (List.mem_of_getElem? there)).2] at member
  simp at member

/-! ## Adding arcs -/

theorem exists_add_iff (graph : Digraph size) (source target : Int) :
    (∃ after, graph.add source target = .ok after) ↔
      inRange size source = true ∧ inRange size target = true := by
  unfold add
  split
  · simp_all
  · split
    · simp_all
    · simp_all

/-- An added arc is the only new one. -/
theorem mem_neighbours_add {graph after : Digraph size} {first second : Int}
    (added : graph.add first second = .ok after) (source target : Nat) :
    target ∈ after.neighbours source ↔
      target ∈ graph.neighbours source ∨ ((source : Int) = first ∧ (target : Int) = second) := by
  rcases (exists_add_iff graph first second).mp ⟨after, added⟩ with ⟨fromNode, toNode⟩
  have rows : graph.rows.modify first.toNat (IndexSet.insert · second.toNat) = after.rows := by
    unfold add at added
    simp only [fromNode, toNode, Bool.not_true, Bool.false_eq_true, ↓reduceIte] at added
    exact congrArg Digraph.rows (Except.ok.inj added)
  simp only [inRange, Bool.and_eq_true, decide_eq_true_eq] at fromNode toNode
  have ends : second.toNat < size := by omega
  rw [mem_neighbours, mem_neighbours, ← rows, List.getElem?_modify]
  by_cases here : first.toNat = source
  · have sameSource : (source : Int) = first := by omega
    have known : source < graph.rows.length := by
      rw [graph.complete]
      omega
    have sameTarget : (target : Int) = second ↔ second.toNat = target := by omega
    simp [here, sameSource, sameTarget, known, ends]
  · have elsewhere : (source : Int) ≠ first := by omega
    simp [here, elsewhere]

/-- Arcs between nodes can all be added, and then the graph has these arcs. -/
theorem exists_ofArcs {arcs : List (Nat × Nat)}
    (inside : ∀ arc ∈ arcs, arc.1 < size ∧ arc.2 < size) :
    ∃ graph, ofArcs size arcs = .ok graph ∧
      ∀ source target, target ∈ graph.neighbours source ↔ (source, target) ∈ arcs := by
  suffices extended : ∀ start : Digraph size, ∃ graph,
      arcs.foldlM (fun graph arc => graph.add arc.1 arc.2) start = .ok graph ∧
        ∀ source target, target ∈ graph.neighbours source ↔
          target ∈ start.neighbours source ∨ (source, target) ∈ arcs by
    simpa [ofArcs] using extended (unconnected size)
  induction arcs with
  | nil => exact fun start => ⟨start, rfl, by simp⟩
  | cons first rest inductionHypothesis =>
      intro start
      rw [List.forall_mem_cons] at inside
      rcases first with ⟨first, second⟩
      have fits : inRange size first = true ∧ inRange size second = true := by
        have bounds := inside.1
        simp only [inRange, Bool.and_eq_true, decide_eq_true_eq]
        omega
      rcases (exists_add_iff start first second).mpr fits with ⟨middle, added⟩
      rcases inductionHypothesis inside.2 middle with ⟨graph, others, arcsOf⟩
      refine ⟨graph, ?_, ?_⟩
      · rw [List.foldlM_cons, added]
        exact others
      · intro source target
        rw [arcsOf, mem_neighbours_add added, List.mem_cons, Prod.mk.injEq, or_assoc,
          Int.ofNat_inj, Int.ofNat_inj]

end Digraph
end BorrowChecker
