import BorrowChecker.Control.Reach

namespace BorrowChecker
namespace Reach

/-!
Exactness of the layered search.

The search is sound because every layer consists of successors of the one
before.  It is complete because what has been seen, once the search ends, has no
successor outside of it among the nodes that may be visited.  Completeness
therefore needs those nodes to contain every successor, and nothing else: they
may repeat, and the start need not be one of them.
-/

variable {α : Type}

namespace Leads

theorem trans {successors : α → List α} {first middle last : α}
    (front : Leads successors first middle) (back : Leads successors middle last) :
    Leads successors first last := by
  induction front with
  | refl node => exact back
  | step edge _ inductionHypothesis => exact .step edge (inductionHypothesis back)

theorem single {successors : α → List α} {first last : α} (edge : last ∈ successors first) :
    Leads successors first last :=
  .step edge (.refl last)

theorem snoc {successors : α → List α} {first middle last : α}
    (front : Leads successors first middle) (edge : last ∈ successors middle) :
    Leads successors first last :=
  front.trans (single edge)

/-- A property of the start that every step preserves holds wherever the steps
lead. -/
theorem preserves {successors : α → List α} {motive : α → Prop} {first last : α}
    (leads : Leads successors first last) (start : motive first)
    (kept : ∀ node, motive node → ∀ next ∈ successors node, motive next) :
    motive last := by
  induction leads with
  | refl node => exact start
  | step edge _ inductionHypothesis => exact inductionHypothesis (kept _ start _ edge)

end Leads

variable [DecidableEq α]

@[simp] theorem mem_layer (successors : α → List α) (unseen frontier : List α) (node : α) :
    node ∈ layer successors unseen frontier ↔
      node ∈ unseen ∧ ∃ source ∈ frontier, node ∈ successors source := by
  simp [layer]

@[simp] theorem mem_without (unseen found : List α) (node : α) :
    node ∈ without unseen found ↔ node ∈ unseen ∧ node ∉ found := by
  simp [without]

/-- Whatever the search finds is reached from the frontier. -/
theorem search_sound (successors : α → List α) (unseen frontier : List α) (node : α)
    (found : node ∈ search successors unseen frontier) :
    ∃ source ∈ frontier, Leads successors source node := by
  fun_induction search successors unseen frontier with
  | case1 => simp at found
  | case2 unseen frontier nonempty inductionHypothesis =>
      rcases List.mem_append.mp found with here | later
      · rcases (mem_layer _ _ _ _).mp here with ⟨_, source, member, edge⟩
        exact ⟨source, member, .single edge⟩
      · rcases inductionHypothesis later with ⟨middle, inLayer, leads⟩
        rcases (mem_layer _ _ _ _).mp inLayer with ⟨_, source, member, edge⟩
        exact ⟨source, member, .step edge leads⟩

/-- The search leaves nothing open.  If every node was seen or is still unseen,
and only nodes of the frontier have unseen successors, then afterwards no node
has a successor that was neither seen nor found. -/
theorem search_closed (successors : α → List α) (nodes unseen frontier : List α)
    (seen : α → Prop) (covered : ∀ node ∈ nodes, seen node ∨ node ∈ unseen)
    (settled : ∀ node, seen node → node ∉ frontier →
      ∀ next ∈ successors node, next ∈ nodes → seen next)
    (node : α) (known : seen node ∨ node ∈ search successors unseen frontier)
    (next : α) (edge : next ∈ successors node) (member : next ∈ nodes) :
    seen next ∨ next ∈ search successors unseen frontier := by
  fun_induction search successors unseen frontier generalizing seen with
  | case1 unseen frontier exhausted =>
      left
      have nodeSeen : seen node := by simpa using known
      by_cases onFrontier : node ∈ frontier
      · rcases covered next member with nextSeen | nextUnseen
        · exact nextSeen
        · have inLayer : next ∈ layer successors unseen frontier :=
            (mem_layer _ _ _ _).mpr ⟨nextUnseen, node, onFrontier, edge⟩
          simp [exhausted] at inLayer
      · exact settled node nodeSeen onFrontier next edge member
  | case2 unseen frontier nonempty inductionHypothesis =>
      let seenNow := fun candidate => seen candidate ∨ candidate ∈ layer successors unseen frontier
      have coveredNow : ∀ candidate ∈ nodes, seenNow candidate ∨
          candidate ∈ without unseen (layer successors unseen frontier) := by
        intro candidate inNodes
        rcases covered candidate inNodes with old | fresh
        · exact .inl (.inl old)
        · by_cases inLayer : candidate ∈ layer successors unseen frontier
          · exact .inl (.inr inLayer)
          · exact .inr ((mem_without _ _ _).mpr ⟨fresh, inLayer⟩)
      have settledNow : ∀ candidate, seenNow candidate →
          candidate ∉ layer successors unseen frontier →
          ∀ after ∈ successors candidate, after ∈ nodes → seenNow after := by
        intro candidate candidateSeen outside after afterEdge inNodes
        rcases candidateSeen with old | inLayer
        · by_cases onFrontier : candidate ∈ frontier
          · rcases covered after inNodes with afterSeen | afterUnseen
            · exact .inl afterSeen
            · exact .inr ((mem_layer _ _ _ _).mpr ⟨afterUnseen, candidate, onFrontier, afterEdge⟩)
          · exact .inl (settled candidate old onFrontier after afterEdge inNodes)
        · exact absurd inLayer outside
      have knownNow : seenNow node ∨ node ∈ search successors
          (without unseen (layer successors unseen frontier))
          (layer successors unseen frontier) := by
        rcases known with old | found
        · exact .inl (.inl old)
        · rcases List.mem_append.mp found with inLayer | later
          · exact .inl (.inr inLayer)
          · exact .inr later
      rcases inductionHypothesis seenNow coveredNow settledNow knownNow with (old | inLayer) | later
      · exact .inl old
      · exact .inr (List.mem_append_left _ inLayer)
      · exact .inr (List.mem_append_right _ later)

/-- The closure of a start consists of the nodes it leads to, provided that the
nodes a search may visit include every successor. -/
theorem mem_closure_iff (successors : α → List α) (nodes : List α) (start : α)
    (complete : ∀ node, ∀ next ∈ successors node, next ∈ nodes) (node : α) :
    node ∈ closure successors nodes start ↔ Leads successors start node := by
  constructor
  · intro member
    rcases List.mem_cons.mp member with same | found
    · exact same ▸ .refl node
    · rcases search_sound _ _ _ _ found with ⟨source, fromStart, leads⟩
      exact List.mem_singleton.mp fromStart ▸ leads
  · intro leads
    have covered : ∀ candidate ∈ nodes,
        candidate = start ∨ candidate ∈ without nodes [start] := by
      intro candidate inNodes
      by_cases same : candidate = start
      · exact .inl same
      · exact .inr ((mem_without _ _ _).mpr ⟨inNodes, by simpa using same⟩)
    refine leads.preserves (motive := fun last => last ∈ closure successors nodes start)
      List.mem_cons_self ?_
    intro reached inClosure next edge
    refine List.mem_cons.mpr (search_closed successors nodes (without nodes [start]) [start]
      (fun candidate => candidate = start) covered ?_
      reached (List.mem_cons.mp inClosure) next edge (complete reached next edge))
    intro candidate same outside
    exact absurd (List.mem_singleton.mpr same) outside

end Reach
end BorrowChecker
