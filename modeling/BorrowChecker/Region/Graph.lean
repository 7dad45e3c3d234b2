import BorrowChecker.Fault
import BorrowChecker.Table

namespace BorrowChecker

/-!
The outlives graph.

Nodes are lifetimes; an edge from a longer to a shorter lifetime records a
demand.  Lifetimes are numbered in the order in which they are first mentioned.
Three structures have to agree: a map from lifetimes to numbers, the list of
lifetimes in which the numbers are positions, and for each number the numbers
that its edges lead to.  A graph comes with the proof that they do.  A lifetime
is never recorded as outliving itself, and which of several demands came first
is not remembered.
-/

/-- Numbered lifetimes with edges between the numbers. -/
structure NumberedGraph where
  numbers : Table Lifetime Nat := {}
  lifetimes : List Lifetime := []
  arcs : Table Nat (Table Nat Bool) := {}
  deriving DecidableEq, Repr, Inhabited

namespace NumberedGraph

/-- The number of a lifetime.  A lifetime that has none gets the next one. -/
def node (graph : NumberedGraph) (lifetime : Lifetime) : Nat × NumberedGraph :=
  match graph.numbers.get? lifetime with
  | some number => (number, graph)
  | none =>
      let number := graph.lifetimes.length
      (number, { graph with
        numbers := graph.numbers.insert lifetime number
        lifetimes := graph.lifetimes ++ [lifetime] })

/-- Enter an edge between two different numbers. -/
def connect (graph : NumberedGraph) (source target : Nat) : NumberedGraph :=
  if source = target then graph
  else
    let targets := (graph.arcs.get? source).getD {}
    { graph with arcs := graph.arcs.insert source (targets.insert target true) }

/-- Record that one lifetime outlives another.  The longer one is mentioned
first. -/
def add (graph : NumberedGraph) (long short : Lifetime) : NumberedGraph :=
  let (source, graph) := graph.node long
  let (target, graph) := graph.node short
  graph.connect source target

def arc (graph : NumberedGraph) (source target : Nat) : Bool :=
  ((graph.arcs.get? source).bind fun targets => targets.get? target).getD false

def outlives (graph : NumberedGraph) (long short : Lifetime) : Bool :=
  match graph.numbers.get? long, graph.numbers.get? short with
  | some source, some target => graph.arc source target
  | _, _ => false

/-- The numbers that the edges of a number lead to, in increasing order. -/
def successors (graph : NumberedGraph) (number : Nat) : List Nat :=
  (List.range graph.lifetimes.length).filter (graph.arc number)

/-- The lifetimes that a lifetime was demanded to outlive, in the order in which
they were first mentioned. -/
def shorter (graph : NumberedGraph) (long : Lifetime) : List Lifetime :=
  match graph.numbers.get? long with
  | none => []
  | some number => (graph.successors number).filterMap fun target => graph.lifetimes[target]?

/-- The edges in the order in which they are stored. -/
def arcList (graph : NumberedGraph) : List (Nat × Nat) :=
  graph.arcs.entries.flatMap fun entry => entry.2.keys.map fun target => (entry.1, target)

def edgeCount (graph : NumberedGraph) : Nat :=
  graph.arcs.entries.foldl (fun count entry => count + entry.2.size) 0

/-! ## Edges -/

theorem arc_eq_true_iff {graph : NumberedGraph} {source target : Nat} :
    graph.arc source target = true ↔
      ∃ targets, graph.arcs.get? source = some targets ∧ targets.get? target = some true := by
  unfold arc
  cases graph.arcs.get? source with
  | none => simp
  | some targets => cases found : targets.get? target <;> simp [found]

theorem outlives_eq_true_iff {graph : NumberedGraph} {long short : Lifetime} :
    graph.outlives long short = true ↔
      ∃ source target, graph.numbers.get? long = some source ∧
        graph.numbers.get? short = some target ∧ graph.arc source target = true := by
  unfold outlives
  split <;> simp_all

@[simp] theorem numbers_connect (graph : NumberedGraph) (source target : Nat) :
    (graph.connect source target).numbers = graph.numbers := by
  unfold connect
  split <;> rfl

@[simp] theorem lifetimes_connect (graph : NumberedGraph) (source target : Nat) :
    (graph.connect source target).lifetimes = graph.lifetimes := by
  unfold connect
  split <;> rfl

@[simp] theorem arc_connect (graph : NumberedGraph) (first second source target : Nat) :
    (graph.connect first second).arc source target = true ↔
      graph.arc source target = true ∨
        (first ≠ second ∧ source = first ∧ target = second) := by
  unfold connect
  split
  · simp_all
  · rename_i different
    rw [arc_eq_true_iff, arc_eq_true_iff]
    by_cases sameSource : source = first
    · subst sameSource
      cases graph.arcs.get? source with
      | none => simp [different]
      | some targets => by_cases sameTarget : target = second <;> simp [different, sameTarget]
    · simp [sameSource]

theorem number_node (graph : NumberedGraph) (lifetime : Lifetime) :
    (graph.node lifetime).2.numbers.get? lifetime = some (graph.node lifetime).1 := by
  unfold node
  split
  · assumption
  · simp

/-- Numbers never change. -/
theorem kept_number {graph : NumberedGraph} {known : Lifetime} {number : Nat}
    (numbered : graph.numbers.get? known = some number) (lifetime : Lifetime) :
    (graph.node lifetime).2.numbers.get? known = some number := by
  unfold node
  split
  · exact numbered
  · rename_i unknown
    have different : known ≠ lifetime := fun same => by simp [← same, numbered] at unknown
    simp [different, numbered]

theorem arcs_node (graph : NumberedGraph) (lifetime : Lifetime) :
    (graph.node lifetime).2.arcs = graph.arcs := by
  unfold node
  split <;> rfl

@[simp] theorem arc_node (graph : NumberedGraph) (lifetime : Lifetime) (source target : Nat) :
    (graph.node lifetime).2.arc source target = graph.arc source target := by
  unfold arc
  rw [arcs_node]

theorem add_eq (graph : NumberedGraph) (long short : Lifetime) :
    graph.add long short = ((graph.node long).2.node short).2.connect (graph.node long).1
      ((graph.node long).2.node short).1 := rfl

/-! ## Agreement of the three structures -/

/-- The numbers of the lifetimes are their positions, edges lead from a number to a
different one, and nothing but edges is stored. -/
structure InOrder (graph : NumberedGraph) : Prop where
  inverse : ∀ lifetime number,
    graph.numbers.get? lifetime = some number ↔ graph.lifetimes[number]? = some lifetime
  bounded : ∀ source target, graph.arc source target = true →
    source < graph.lifetimes.length ∧ target < graph.lifetimes.length
  apart : ∀ source target, graph.arc source target = true → source ≠ target
  stored : ∀ source targets, graph.arcs.get? source = some targets →
    ∀ target value, targets.get? target = some value → value = true

theorem inOrder_empty : InOrder {} where
  inverse := by simp
  bounded := by simp [arc]
  apart := by simp [arc]
  stored := by simp

namespace InOrder

variable {graph : NumberedGraph}

theorem exists_number_iff (inOrder : graph.InOrder) {lifetime : Lifetime} :
    (∃ number, graph.numbers.get? lifetime = some number) ↔ lifetime ∈ graph.lifetimes := by
  simp only [inOrder.inverse, List.mem_iff_getElem?]

theorem number_unique (inOrder : graph.InOrder) {number : Nat} {first second : Lifetime}
    (ofFirst : graph.numbers.get? first = some number)
    (ofSecond : graph.numbers.get? second = some number) : first = second := by
  rw [inOrder.inverse] at ofFirst ofSecond
  exact Option.some.inj (ofFirst.symm.trans ofSecond)

theorem lifetimes_node (inOrder : graph.InOrder) (lifetime : Lifetime) :
    (graph.node lifetime).2.lifetimes =
      if lifetime ∈ graph.lifetimes then graph.lifetimes else graph.lifetimes ++ [lifetime] := by
  unfold node
  split
  · rename_i number known
    rw [if_pos (inOrder.exists_number_iff.mp ⟨number, known⟩)]
  · rename_i unknown
    have fresh : lifetime ∉ graph.lifetimes := fun listed => by
      rcases inOrder.exists_number_iff.mpr listed with ⟨number, known⟩
      simp [unknown] at known
    rw [if_neg fresh]

theorem node (inOrder : graph.InOrder) (lifetime : Lifetime) :
    (graph.node lifetime).2.InOrder where
  inverse := by
    intro other number
    unfold NumberedGraph.node
    split
    · exact inOrder.inverse other number
    · rename_i unknown
      have fresh : ∀ position : Nat, graph.lifetimes[position]? ≠ some lifetime := by
        intro position there
        rw [← inOrder.inverse, unknown] at there
        simp at there
      simp only [Table.get?_insert, List.getElem?_append]
      by_cases same : other = lifetime
      · subst same
        grind
      · simp only [same, ↓reduceIte, inOrder.inverse]
        grind
  bounded := by
    intro source target edge
    rw [arc_node] at edge
    have inside := inOrder.bounded source target edge
    rw [inOrder.lifetimes_node]
    split
    · exact inside
    · simp only [List.length_append, List.length_singleton]
      omega
  apart := by
    intro source target edge
    exact inOrder.apart source target (arc_node graph lifetime source target ▸ edge)
  stored := by
    rw [arcs_node]
    exact inOrder.stored

theorem connect (inOrder : graph.InOrder) {first second : Nat}
    (fromNode : first < graph.lifetimes.length) (toNode : second < graph.lifetimes.length) :
    (graph.connect first second).InOrder := by
  refine ⟨?_, ?_, ?_, ?_⟩
  · rw [numbers_connect, lifetimes_connect]
    exact inOrder.inverse
  · intro source target edge
    rw [lifetimes_connect]
    rcases (arc_connect graph first second source target).mp edge with old | ⟨_, rfl, rfl⟩
    · exact inOrder.bounded source target old
    · exact ⟨fromNode, toNode⟩
  · intro source target edge
    rcases (arc_connect graph first second source target).mp edge with old | ⟨different, rfl, rfl⟩
    · exact inOrder.apart source target old
    · exact different
  · unfold NumberedGraph.connect
    split
    · exact inOrder.stored
    · intro source targets found target value marked
      rw [Table.get?_insert] at found
      split at found
      · rcases Option.some.inj found with rfl
        rw [Table.get?_insert] at marked
        split at marked
        · exact (Option.some.inj marked).symm
        · cases known : graph.arcs.get? first with
          | none => simp [known] at marked
          | some old =>
              rw [known, Option.getD_some] at marked
              exact inOrder.stored first old known target value marked
      · exact inOrder.stored source targets found target value marked

theorem lt_length (inOrder : graph.InOrder) {lifetime : Lifetime} {number : Nat}
    (known : graph.numbers.get? lifetime = some number) : number < graph.lifetimes.length :=
  (List.getElem?_eq_some_iff.mp ((inOrder.inverse lifetime number).mp known)).1

theorem add (inOrder : graph.InOrder) (long short : Lifetime) : (graph.add long short).InOrder := by
  have afterBoth := (inOrder.node long).node short
  rw [add_eq]
  exact afterBoth.connect (afterBoth.lt_length (kept_number (number_node graph long) short))
    (afterBoth.lt_length (number_node _ short))

end InOrder
end NumberedGraph

/-- A directed graph over lifetimes. -/
structure OutlivesGraph extends NumberedGraph where
  inOrder : toNumberedGraph.InOrder
  deriving DecidableEq, Repr

namespace OutlivesGraph

def empty : OutlivesGraph := ⟨{}, NumberedGraph.inOrder_empty⟩

instance : Inhabited OutlivesGraph := ⟨empty⟩

def register (graph : OutlivesGraph) (lifetime : Lifetime) : OutlivesGraph :=
  ⟨(graph.node lifetime).2, graph.inOrder.node lifetime⟩

def number? (graph : OutlivesGraph) (lifetime : Lifetime) : Option Nat :=
  graph.numbers.get? lifetime

@[inherit_doc NumberedGraph.add]
def add (graph : OutlivesGraph) (long short : Lifetime) : OutlivesGraph :=
  ⟨graph.toNumberedGraph.add long short, graph.inOrder.add long short⟩

def addAll (graph : OutlivesGraph) (demands : List Outlives) : OutlivesGraph :=
  demands.foldl (fun current demand => current.add demand.long demand.short) graph

def equate (graph : OutlivesGraph) (left right : Lifetime) : OutlivesGraph :=
  (graph.add left right).add right left

end OutlivesGraph
end BorrowChecker
