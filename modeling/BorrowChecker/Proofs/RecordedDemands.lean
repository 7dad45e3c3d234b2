import BorrowChecker.Proofs.FirstOccurrences
import BorrowChecker.Proofs.OutlivesGraph
import Mathlib.Data.Set.Card

namespace BorrowChecker

/-!
What a graph remembers of the operations that built it.

Lifetimes may be mentioned and demands recorded in any order and any number of times,
and a lifetime may be demanded to outlive itself.  A graph remembers which lifetimes
were mentioned, in the order of their first mention, and which demands were made
between different lifetimes.  It forgets how often that happened, and it forgets the
order of the demands.  Numbers of lifetimes are positions in the order of mention, so
they are given out without a gap and never change.

The operations here are those on the three bare structures, the map of numbers, the
list of lifetimes and the nested map of edges: nothing is known of them beforehand.
The invariant relates them to each other and to all operations performed so far.  It
holds of the empty graph and each operation keeps it.
-/

namespace NumberedGraph

open OutlivesGraph (Operation)

/-- The three structures after an operation. -/
def perform (graph : NumberedGraph) : Operation → NumberedGraph
  | .register lifetime => (graph.node lifetime).2
  | .add long short => graph.add long short

def built (operations : List Operation) : NumberedGraph :=
  operations.foldl perform {}

/-- The lifetimes that some operations mention, one mention after the other. -/
def mentions (operations : List Operation) : List Lifetime :=
  operations.flatMap fun
    | .register lifetime => [lifetime]
    | .add long short => [long, short]

/-- Among some operations is the demand that one lifetime outlives another, different
one. -/
def Demanded (operations : List Operation) (long short : Lifetime) : Prop :=
  long ≠ short ∧ .add long short ∈ operations

instance (operations : List Operation) (long short : Lifetime) :
    Decidable (Demanded operations long short) :=
  inferInstanceAs (Decidable (long ≠ short ∧ .add long short ∈ operations))

private theorem demanded_concat (operations : List Operation) (operation : Operation)
    (long short : Lifetime) :
    Demanded (operations ++ [operation]) long short ↔
      Demanded operations long short ∨ (long ≠ short ∧ operation = .add long short) := by
  simp only [Demanded, List.mem_append, List.mem_singleton, and_or_left,
    eq_comm (a := operation)]

/-! ## One operation -/

/-- The structures agree, the lifetimes are those mentioned, by first mention, and the
edges are the demands between different lifetimes. -/
structure Remembers (graph : NumberedGraph) (operations : List Operation) : Prop where
  inOrder : graph.InOrder
  lifetimes : graph.lifetimes = (mentions operations).eraseDups
  outlives : ∀ long short, graph.outlives long short = true ↔ Demanded operations long short

private theorem remembers_empty : Remembers {} [] where
  inOrder := inOrder_empty
  lifetimes := rfl
  outlives := by simp [NumberedGraph.outlives, Demanded]

/-- A lifetime is entered behind the others if it is new. -/
theorem InOrder.lifetimes_node_of_eraseDups {graph : NumberedGraph} (inOrder : graph.InOrder)
    {mentioned : List Lifetime} (listed : graph.lifetimes = mentioned.eraseDups)
    (lifetime : Lifetime) :
    (graph.node lifetime).2.lifetimes = (mentioned ++ [lifetime]).eraseDups := by
  have sameTest : lifetime ∈ graph.lifetimes ↔ mentioned.contains lifetime = true := by
    rw [listed, List.mem_eraseDups, List.contains_iff_mem]
  simp only [eraseDups_concat, inOrder.lifetimes_node, ← listed, sameTest]

namespace Remembers

variable {graph : NumberedGraph} {operations : List Operation}

/-- An operation is remembered, and nothing is forgotten over it. -/
theorem perform (remembers : graph.Remembers operations) (operation : Operation) :
    (graph.perform operation).Remembers (operations ++ [operation]) := by
  have inOrder := remembers.inOrder
  cases operation with
  | register lifetime =>
      refine ⟨inOrder.node lifetime, ?_, fun long short => ?_⟩
      · have mentionsAll : mentions (operations ++ [.register lifetime]) =
            mentions operations ++ [lifetime] := by
          simp [mentions]
        rw [mentionsAll]
        exact inOrder.lifetimes_node_of_eraseDups remembers.lifetimes lifetime
      · rw [demanded_concat, ← remembers.outlives, NumberedGraph.perform, inOrder.outlives_node]
        simp
  | add long short =>
      refine ⟨inOrder.add long short, ?_, fun first second => ?_⟩
      · have mentionsAll : mentions (operations ++ [.add long short]) =
            mentions operations ++ [long] ++ [short] := by
          simp [mentions]
        rw [mentionsAll, NumberedGraph.perform, add_eq, lifetimes_connect]
        exact (inOrder.node long).lifetimes_node_of_eraseDups
          (inOrder.lifetimes_node_of_eraseDups remembers.lifetimes long) short
      · rw [demanded_concat, ← remembers.outlives, NumberedGraph.perform, inOrder.outlives_add]
        grind

/-- What is stored between two numbers is a demand between their lifetimes. -/
theorem mem_arcList_iff (remembers : graph.Remembers operations) (source target : Nat) :
    (source, target) ∈ graph.arcList ↔
      ∃ long short, graph.lifetimes[source]? = some long ∧
        graph.lifetimes[target]? = some short ∧ Demanded operations long short := by
  have inOrder := remembers.inOrder
  simp only [← inOrder.inverse, ← remembers.outlives, inOrder.mem_arcList_iff]
  constructor
  · intro edge
    have inside := inOrder.bounded source target edge
    have ofLong := (inOrder.inverse _ source).mpr (List.getElem?_eq_getElem inside.1)
    have ofShort := (inOrder.inverse _ target).mpr (List.getElem?_eq_getElem inside.2)
    exact ⟨_, _, ofLong, ofShort, outlives_eq_true_iff.mpr ⟨_, _, ofLong, ofShort, edge⟩⟩
  · rintro ⟨long, short, ofLong, ofShort, recorded⟩
    simpa [NumberedGraph.outlives, ofLong, ofShort] using recorded

end Remembers

/-! ## Counting edges -/

private theorem nodup_arcList (graph : NumberedGraph) : graph.arcList.Nodup := by
  refine List.nodup_flatMap.mpr ⟨fun entry _ => ?_, ?_⟩
  · exact entry.2.distinct.map fun _ _ same => (Prod.mk.inj same).2
  · refine (List.pairwise_map.mp graph.arcs.distinct).imp fun different => ?_
    intro arc ofFirst ofSecond
    rcases List.mem_map.mp ofFirst with ⟨_, _, rfl⟩
    rcases List.mem_map.mp ofSecond with ⟨_, _, same⟩
    exact different (Prod.mk.inj same).1.symm

private theorem edgeCount_eq_length (graph : NumberedGraph) :
    graph.edgeCount = graph.arcList.length := by
  suffices counted : ∀ (entries : List (Nat × Table Nat Bool)) start,
      entries.foldl (fun count entry => count + entry.2.size) start = start +
        (entries.flatMap fun entry => entry.2.keys.map fun target => (entry.1, target)).length by
    rw [edgeCount, counted, Nat.zero_add, arcList]
  intro entries
  induction entries with
  | nil => exact fun _ => rfl
  | cons first rest inductionHypothesis =>
      intro start
      rw [List.foldl_cons, inductionHypothesis, List.flatMap_cons, List.length_append,
        List.length_map, Nat.add_assoc]
      simp [Table.size, Table.keys]

/-- The numbers of two lifetimes, as far as they have some. -/
def numbersOf (graph : NumberedGraph) (pair : Lifetime × Lifetime) : Option Nat × Option Nat :=
  (graph.numbers.get? pair.1, graph.numbers.get? pair.2)

namespace Remembers

variable {graph : NumberedGraph} {operations : List Operation}

theorem exists_arc (remembers : graph.Remembers operations) {long short : Lifetime}
    (demanded : Demanded operations long short) :
    ∃ source target, graph.numbers.get? long = some source ∧
      graph.numbers.get? short = some target ∧ graph.arc source target = true :=
  outlives_eq_true_iff.mp ((remembers.outlives long short).mpr demanded)

/-- Different demands are between different numbers. -/
theorem injOn_numbersOf (remembers : graph.Remembers operations) :
    Set.InjOn graph.numbersOf {pair | Demanded operations pair.1 pair.2} := by
  rintro ⟨long, short⟩ first ⟨otherLong, otherShort⟩ _ same
  rcases remembers.exists_arc first with ⟨source, target, ofLong, ofShort, _⟩
  rcases Prod.mk.inj same with ⟨sameSource, sameTarget⟩
  exact Prod.ext (remembers.inOrder.number_unique ofLong (sameSource ▸ ofLong))
    (remembers.inOrder.number_unique ofShort (sameTarget ▸ ofShort))

/-- The numbers of the demands are the ends of the edges. -/
theorem image_numbersOf (remembers : graph.Remembers operations) :
    graph.numbersOf '' {pair | Demanded operations pair.1 pair.2} =
      Prod.map some some '' (graph.arcList.toFinset : Set (Nat × Nat)) := by
  ext ⟨first, second⟩
  constructor
  · rintro ⟨⟨long, short⟩, demanded, same⟩
    rcases remembers.exists_arc demanded with ⟨source, target, ofLong, ofShort, edge⟩
    refine ⟨(source, target), ?_, ?_⟩
    · simpa using remembers.inOrder.mem_arcList_iff.mpr edge
    · rw [← same]
      simp [numbersOf, ofLong, ofShort]
  · rintro ⟨⟨source, target⟩, stored, same⟩
    rcases (remembers.mem_arcList_iff source target).mp (by simpa using stored) with
      ⟨long, short, ofLong, ofShort, demanded⟩
    refine ⟨(long, short), demanded, ?_⟩
    rw [← same]
    simp [numbersOf, (remembers.inOrder.inverse _ _).mpr ofLong,
      (remembers.inOrder.inverse _ _).mpr ofShort]

/-- Edges are counted as the pairs of lifetimes they stand for. -/
theorem edgeCount_eq (remembers : graph.Remembers operations) :
    graph.edgeCount = {pair : Lifetime × Lifetime | Demanded operations pair.1 pair.2}.ncard := by
  have someApart :
      Function.Injective (Prod.map (some : Nat → Option Nat) (some : Nat → Option Nat)) :=
    (Option.some_injective Nat).prodMap (Option.some_injective Nat)
  rw [← remembers.injOn_numbersOf.ncard_image, remembers.image_numbersOf,
    Set.ncard_image_of_injective _ someApart, Set.ncard_coe_finset,
    List.toFinset_card_of_nodup graph.nodup_arcList, edgeCount_eq_length]

end Remembers

/-! ## All operations -/

private theorem remembers_built (operations : List Operation) :
    (built operations).Remembers operations := by
  induction operations using List.reverseRecOn with
  | nil => exact remembers_empty
  | append_singleton operations operation inductionHypothesis =>
      have lastStep : built (operations ++ [operation]) =
          (built operations).perform operation := by
        simp [built]
      rw [lastStep]
      exact inductionHypothesis.perform operation

/-- Graphs that carry their agreement are built in the same way. -/
theorem toNumberedGraph_built (operations : List Operation) :
    (OutlivesGraph.built operations).toNumberedGraph = built operations := by
  induction operations using List.reverseRecOn with
  | nil => rfl
  | append_singleton operations operation inductionHypothesis =>
      simp only [OutlivesGraph.built, built, List.foldl_append, List.foldl_cons,
        List.foldl_nil] at inductionHypothesis ⊢
      rw [← inductionHypothesis]
      cases operation <;> rfl

/-- Whatever operations are performed on an empty graph, it then lists the lifetimes they
mention, each once and by first mention, and the map of numbers is the inverse of this
list.  It has an edge for each demand between different lifetimes and for nothing else,
and the nested map holds nothing but these edges, under the numbers of their ends.  The
edges of a lifetime are listed in the order of mention, and edges are counted once
however often the demand was made.  The graphs of the analysis are built so. -/
theorem built_remembers_operations (operations : List Operation) :
    (∀ lifetime, lifetime ∈ (built operations).lifetimes ↔ lifetime ∈ mentions operations) ∧
    (built operations).lifetimes.Nodup ∧
    ((built operations).lifetimes.Pairwise fun earlier later =>
      (mentions operations).idxOf earlier < (mentions operations).idxOf later) ∧
    (∀ lifetime position, (built operations).numbers.get? lifetime = some position ↔
      (built operations).lifetimes[position]? = some lifetime) ∧
    (∀ long short,
      (built operations).outlives long short = true ↔ Demanded operations long short) ∧
    (∀ source target,
      (∃ targets, (built operations).arcs.get? source = some targets ∧ target ∈ targets.keys) ↔
        ∃ long short, (built operations).lifetimes[source]? = some long ∧
          (built operations).lifetimes[target]? = some short ∧ Demanded operations long short) ∧
    (∀ long, (built operations).shorter long =
      (built operations).lifetimes.filter fun short => decide (Demanded operations long short)) ∧
    (built operations).edgeCount =
      {pair : Lifetime × Lifetime | Demanded operations pair.1 pair.2}.ncard ∧
    (OutlivesGraph.built operations).toNumberedGraph = built operations := by
  have remembers := remembers_built operations
  refine ⟨?_, remembers.inOrder.nodup_lifetimes, ?_, remembers.inOrder.inverse,
    remembers.outlives, ?_, ?_, remembers.edgeCount_eq, toNumberedGraph_built operations⟩
  · intro lifetime
    rw [remembers.lifetimes, List.mem_eraseDups]
  · rw [remembers.lifetimes]
    exact eraseDups_pairwise_idxOf _
  · intro source target
    rw [← remembers.mem_arcList_iff, mem_arcList]
  · intro long
    rw [remembers.inOrder.shorter_eq]
    refine List.filter_congr fun short _ => ?_
    rw [Bool.eq_iff_iff, remembers.outlives, decide_eq_true_eq]

end NumberedGraph
end BorrowChecker
