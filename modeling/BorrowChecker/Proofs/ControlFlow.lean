import BorrowChecker.Control.Flow
import BorrowChecker.Proofs.Reachability
import BorrowChecker.Proofs.ValidBodies

namespace BorrowChecker

/-!
Control flow of valid bodies.

Where control may go is read off the instructions; a walk is a way through the
body together with the labels that are executed on it.  The control-flow graph
that the analyses work on is shown to have exactly these ways, and the labels it
counts as reachable are those that a walk from the entry arrives at.
-/

/-- A walk from `start` executes the listed labels in turn and arrives at a
label, which is not executed any more. -/
inductive Walk (edge : Nat → Nat → Prop) (start : Nat) : List Nat → Nat → Prop where
  | here : Walk edge start [] start
  | next {labels : List Nat} {source target : Nat} (before : Walk edge start labels source)
      (step : edge source target) : Walk edge start (labels ++ [source]) target

/-- A walk can be extended at its start. -/
theorem Walk.cons {edge : Nat → Nat → Prop} {start next label : Nat} {labels : List Nat}
    (step : edge start next) (rest : Walk edge next labels label) :
    Walk edge start (start :: labels) label := by
  induction rest with
  | here => exact .next .here step
  | next _ later inductionHypothesis => exact .next inductionHypothesis later

namespace Body

/-- Control may pass directly from one label to another. -/
def Edge (body : Body) (source target : Nat) : Prop :=
  ∃ instr, body.instr? source = some instr ∧ (target : Int) ∈ instr.successors

/-- Some walk from the entry arrives at a label. -/
def Reachable (body : Body) (label : Nat) : Prop :=
  ∃ labels, Walk body.Edge body.entry.toNat labels label

theorem Reachable.next {body : Body} {source target : Nat} (reached : body.Reachable source)
    (step : body.Edge source target) : body.Reachable target := by
  rcases reached with ⟨labels, walk⟩
  exact ⟨labels ++ [source], .next walk step⟩

/-- Control stays within a valid body. -/
theorem InOrder.lt_of_edge {body : Body} {program : Program} (inOrder : body.InOrder program)
    {source target : Nat} (step : body.Edge source target) : target < body.code.length := by
  rcases step with ⟨instr, here, jump⟩
  rcases (inRange_iff _ _).mp ((inOrder.instrInOrder here).jumps _ jump) with ⟨label, same, below⟩
  omega

end Body

/-! ## Entering the ways of a body -/

namespace Flow

/-- A graph of a given size and entry whose ways are the given ones, entered in both
directions. -/
structure Records (flow : Flow) (size entry : Nat) (way : Nat → Nat → Prop) : Prop where
  size : flow.size = size
  entry : flow.entry = entry
  onward : ∀ source target, target ∈ flow.successors source ↔ way source target
  back : ∀ source target, source ∈ flow.predecessors target ↔ way source target

theorem records_unconnected (size entry : Nat) :
    (unconnected size entry).Records size entry fun _ _ => False :=
  ⟨rfl, rfl, by simp [successors, unconnected], by simp [predecessors, unconnected]⟩

namespace Records

variable {flow after : Flow} {size entry : Nat} {way : Nat → Nat → Prop}

theorem congr {other : Nat → Nat → Prop} (records : flow.Records size entry way)
    (same : ∀ source target, way source target ↔ other source target) :
    flow.Records size entry other :=
  ⟨records.size, records.entry,
    fun source target => (records.onward source target).trans (same _ _),
    fun source target => (records.back source target).trans (same _ _)⟩

private theorem exists_connect (records : flow.Records size entry way) {first second : Int}
    (fromLabel : inRange size first = true) (toLabel : inRange size second = true) :
    ∃ after, flow.connect first second = .ok after := by
  rw [← records.size] at fromLabel toLabel
  rcases (Digraph.exists_add_iff flow.onward first second).mpr ⟨fromLabel, toLabel⟩ with
    ⟨onward, added⟩
  rcases (Digraph.exists_add_iff flow.back second first).mpr ⟨toLabel, fromLabel⟩ with
    ⟨back, addedBack⟩
  exact ⟨_, bind_eq_ok.mpr ⟨onward, added, bind_eq_ok.mpr ⟨back, addedBack, rfl⟩⟩⟩

/-- A way is entered into both graphs. -/
theorem connect (records : flow.Records size entry way) {first second : Int}
    (connected : flow.connect first second = .ok after) :
    after.Records size entry fun source target =>
      way source target ∨ ((source : Int) = first ∧ (target : Int) = second) := by
  rcases bind_eq_ok.mp connected with ⟨onward, added, connected⟩
  rcases bind_eq_ok.mp connected with ⟨back, addedBack, connected⟩
  rcases Except.ok.inj connected with rfl
  refine ⟨records.size, records.entry, ?_, ?_⟩
  · intro source target
    rw [← records.onward]
    exact Digraph.mem_neighbours_add added source target
  · intro source target
    rw [← records.back, and_comm]
    exact Digraph.mem_neighbours_add addedBack target source

/-- The ways on from one label, entered in turn. -/
theorem connectAll (records : flow.Records size entry way) {label : Nat} {nexts : List Int}
    (connected : nexts.foldlM (fun current next => current.connect label next) flow = .ok after) :
    after.Records size entry fun source target =>
      way source target ∨ (source = label ∧ (target : Int) ∈ nexts) := by
  induction nexts generalizing flow way with
  | nil =>
      rcases Except.ok.inj connected with rfl
      exact records.congr (by simp)
  | cons first rest inductionHypothesis =>
      rw [List.foldlM_cons, bind_eq_ok] at connected
      rcases connected with ⟨middle, connectedFirst, connectedRest⟩
      refine (inductionHypothesis (records.connect connectedFirst) connectedRest).congr ?_
      intro source target
      simp only [Int.ofNat_inj, List.mem_cons]
      grind

theorem connectAt (records : flow.Records size entry way) {body : Body} {label : Nat}
    (connected : body.connectAt flow label = .ok after) :
    after.Records size entry fun source target =>
      way source target ∨ (source = label ∧ body.Edge source target) := by
  unfold Body.connectAt at connected
  split at connected
  · simp at connected
  · rename_i instr here
    refine (records.connectAll connected).congr ?_
    intro source target
    refine or_congr_right (and_congr_right ?_)
    rintro rfl
    simp [Body.Edge, here]

/-- The ways on from several labels, entered in turn. -/
theorem connectLabels (records : flow.Records size entry way) {body : Body} {labels : List Nat}
    (connected : labels.foldlM body.connectAt flow = .ok after) :
    after.Records size entry fun source target =>
      way source target ∨ (source ∈ labels ∧ body.Edge source target) := by
  induction labels generalizing flow way with
  | nil =>
      rcases Except.ok.inj connected with rfl
      exact records.congr (by simp)
  | cons first rest inductionHypothesis =>
      rw [List.foldlM_cons, bind_eq_ok] at connected
      rcases connected with ⟨middle, connectedFirst, connectedRest⟩
      refine (inductionHypothesis (records.connectAt connectedFirst) connectedRest).congr ?_
      intro source target
      rw [List.mem_cons]
      grind

/-- The ways on from a label can be entered if they stay within the size. -/
theorem exists_connectAll (records : flow.Records size entry way) {label : Nat}
    (fromLabel : label < size) {nexts : List Int}
    (jumps : ∀ next ∈ nexts, inRange size next = true) :
    ∃ after, nexts.foldlM (fun current next => current.connect label next) flow = .ok after := by
  induction nexts generalizing flow way with
  | nil => exact ⟨flow, rfl⟩
  | cons first rest inductionHypothesis =>
      rw [List.forall_mem_cons] at jumps
      rcases records.exists_connect ((inRange_iff _ _).mpr ⟨label, rfl, fromLabel⟩) jumps.1 with
        ⟨middle, connected⟩
      rcases inductionHypothesis (records.connect connected) jumps.2 with ⟨after, others⟩
      exact ⟨after, bind_eq_ok.mpr ⟨middle, connected, others⟩⟩

private theorem exists_connectLabels (records : flow.Records size entry way) {body : Body}
    {labels : List Nat} (inside : ∀ label ∈ labels, label < size)
    (jumps : ∀ label ∈ labels, ∃ instr, body.instr? label = some instr ∧
      ∀ next ∈ instr.successors, inRange size next = true) :
    ∃ after, labels.foldlM body.connectAt flow = .ok after := by
  induction labels generalizing flow way with
  | nil => exact ⟨flow, rfl⟩
  | cons first rest inductionHypothesis =>
      rw [List.forall_mem_cons] at inside jumps
      rcases jumps.1 with ⟨instr, here, stays⟩
      have enters : ∃ middle, body.connectAt flow first = .ok middle := by
        unfold Body.connectAt
        rw [here]
        exact records.exists_connectAll inside.1 stays
      rcases enters with ⟨middle, connected⟩
      rcases inductionHypothesis (records.connectAt connected) inside.2 jumps.2 with
        ⟨after, others⟩
      exact ⟨after, bind_eq_ok.mpr ⟨middle, connected, others⟩⟩

end Records
end Flow

namespace Body

/-- The graph of a body has the ways that its instructions have. -/
theorem flow_eq_ok {body : Body} {flow : Flow} (found : body.flow = .ok flow) :
    flow.Records body.code.length body.entry.toNat body.Edge ∧
      inRange body.code.length body.entry = true := by
  unfold Body.flow at found
  rcases bind_eq_ok.mp found with ⟨connected, entered, rest⟩
  split at rest
  · rcases Except.ok.inj rest with rfl
    refine ⟨((Flow.records_unconnected _ _).connectLabels entered).congr ?_, ‹_›⟩
    intro source target
    simp only [false_or, and_iff_right_iff_imp]
    rintro ⟨instr, here, _⟩
    exact List.mem_range.mpr (lt_length_of_instr? here)
  · simp at rest

/-- Valid bodies have a control-flow graph. -/
theorem InOrder.exists_flow {body : Body} {program : Program} (inOrder : body.InOrder program) :
    ∃ flow, body.flow = .ok flow := by
  have inside : ∀ label ∈ body.labels, label < body.code.length :=
    fun label listed => List.mem_range.mp listed
  have jumps : ∀ label ∈ body.labels, ∃ instr, body.instr? label = some instr ∧
      ∀ next ∈ instr.successors, inRange body.code.length next = true := by
    intro label listed
    have there := List.getElem?_eq_getElem (inside label listed)
    rcases inOrder.instrs label _ there with ⟨instr, present, parts⟩
    exact ⟨instr, instr?_eq_some.mpr ⟨_, there, present⟩, parts.jumps⟩
  rcases (Flow.records_unconnected body.code.length body.entry.toNat).exists_connectLabels
    inside jumps with ⟨flow, connected⟩
  refine ⟨flow, ?_⟩
  unfold Body.flow
  rw [connected]
  simp [bind, Except.bind, inOrder.entryInRange, pure, Except.pure]

end Body

namespace Flow

variable {body : Body} {flow : Flow}

theorem size_eq (found : body.flow = .ok flow) : flow.size = body.code.length :=
  (Body.flow_eq_ok found).1.size

theorem entry_eq (found : body.flow = .ok flow) : flow.entry = body.entry.toNat :=
  (Body.flow_eq_ok found).1.entry

theorem entry_lt_size (found : body.flow = .ok flow) : flow.entry < flow.size := by
  rw [size_eq found, entry_eq found]
  rcases (inRange_iff _ _).mp (Body.flow_eq_ok found).2 with ⟨index, same, below⟩
  omega

/-- The graph of a body has the edges that its instructions have. -/
theorem mem_successors_iff (found : body.flow = .ok flow) (source target : Nat) :
    target ∈ flow.successors source ↔ body.Edge source target :=
  (Body.flow_eq_ok found).1.onward source target

theorem mem_predecessors_iff (found : body.flow = .ok flow) (source target : Nat) :
    source ∈ flow.predecessors target ↔ body.Edge source target :=
  (Body.flow_eq_ok found).1.back source target

theorem lt_size_of_edge (found : body.flow = .ok flow) {source target : Nat}
    (step : body.Edge source target) : source < flow.size ∧ target < flow.size :=
  Digraph.lt_size_of_mem_neighbours ((mem_successors_iff found source target).mpr step)

theorem lt_size_of_mem_successors (found : body.flow = .ok flow) {source target : Nat}
    (edge : target ∈ flow.successors source) : source < flow.size ∧ target < flow.size :=
  lt_size_of_edge found ((mem_successors_iff found source target).mp edge)

private theorem walk_iff_leads (found : body.flow = .ok flow) (label : Nat) :
    body.Reachable label ↔ Reach.Leads flow.successors flow.entry label := by
  constructor
  · rintro ⟨labels, walk⟩
    rw [← entry_eq found] at walk
    induction walk with
    | here => exact .refl _
    | next _ step inductionHypothesis =>
        exact inductionHypothesis.snoc ((mem_successors_iff found _ _).mpr step)
  · intro leads
    refine leads.preserves ⟨[], entry_eq found ▸ .here⟩ ?_
    intro source reached target edge
    exact reached.next ((mem_successors_iff found _ _).mp edge)

theorem mem_discovery_iff (found : body.flow = .ok flow) (label : Nat) :
    label ∈ flow.discovery ↔ body.Reachable label := by
  rw [walk_iff_leads found]
  apply Reach.mem_closure_iff
  intro source target edge
  exact List.mem_range.mpr (lt_size_of_mem_successors found edge).2

theorem lt_size_of_reachable (found : body.flow = .ok flow) {label : Nat}
    (reached : body.Reachable label) : label < flow.size := by
  rcases reached with ⟨labels, walk⟩
  cases walk with
  | here => exact entry_eq found ▸ entry_lt_size found
  | next _ step => exact (lt_size_of_edge found step).2

/-- The graph counts a label as reachable if a walk from the entry arrives
there. -/
theorem mem_reachable_iff (found : body.flow = .ok flow) (label : Nat) :
    label ∈ flow.reachable ↔ body.Reachable label := by
  unfold reachable labels
  simp only [List.mem_filter, List.mem_range, List.contains_iff_mem, mem_discovery_iff found,
    and_iff_right_iff_imp]
  exact lt_size_of_reachable found

end Flow

namespace Body

variable {body : Body}

/-- Every valid body has a control-flow graph, and the graph is exact.  Reachable are the
labels that a walk from the entry arrives at, whatever loops and dead code there are.
The successors of a label are the labels its instruction may continue at, and the
predecessors are the labels from which control may come to it, both without repetition.
No jump of an instruction leads anywhere else. -/
theorem flow_exact (valid : body.IsValid) :
    ∃ flow, body.flow = .ok flow ∧ flow.size = body.code.length ∧
      (∀ label, label ∈ flow.reachable ↔
        ∃ labels, Walk body.Edge body.entry.toNat labels label) ∧
      (∀ source target, target ∈ flow.successors source ↔ body.Edge source target) ∧
      (∀ source target, source ∈ flow.predecessors target ↔ body.Edge source target) ∧
      (∀ label, (flow.successors label).Nodup ∧ (flow.predecessors label).Nodup) ∧
      ∀ label instr, body.instr? label = some instr → ∀ next ∈ instr.successors,
        ∃ target ∈ flow.successors label, next = (target : Int) := by
  rcases valid.inOrder with ⟨program, inOrder⟩
  rcases inOrder.exists_flow with ⟨flow, found⟩
  refine ⟨flow, found, Flow.size_eq found, Flow.mem_reachable_iff found,
    Flow.mem_successors_iff found, Flow.mem_predecessors_iff found,
    fun label => ⟨Digraph.nodup_neighbours _ label, Digraph.nodup_neighbours _ label⟩, ?_⟩
  intro label instr here next jump
  rcases (inRange_iff _ _).mp ((inOrder.instrInOrder here).jumps next jump) with ⟨target, rfl, _⟩
  exact ⟨target, (Flow.mem_successors_iff found label target).mpr ⟨instr, here, jump⟩, rfl⟩

/-- A body that branches to the same label in both arms, comes back to its entry, loops
on one label and has code that is never reached but leads to code that is. -/
def tangledJumps : Body :=
  { name := "tangled"
    program := some (.ofDeclarations [] [])
    locals := [
      { name := "out", kind := .result, type := .unit },
      { name := "c", kind := .parameter, type := .bool }]
    code := [
      { instr := some (.branch 1 1 1) },
      { instr := some (.branch 1 0 2) },
      { instr := some (.branch 1 2 3) },
      { instr := some .ret },
      { instr := some (.goto 1) }] }

/-- The end can be reached and the last label cannot, although it leads to code that
can.  The first branch has one successor. -/
theorem tangledJumps_flow_exact :
    tangledJumps.IsValid ∧ ∃ flow, tangledJumps.flow = .ok flow ∧
      3 ∈ flow.reachable ∧ 4 ∉ flow.reachable ∧ flow.successors 0 = [1] ∧
      4 ∈ flow.predecessors 1 := by
  have valid : tangledJumps.IsValid := rfl
  rcases flow_exact valid with ⟨flow, found, _, reachable, _, predecessors, _, _⟩
  have computed : tangledJumps.flow.toOption.map (fun flow =>
      (flow.successors 0, flow.predecessors 4)) = some ([1], []) := by
    decide +kernel
  rw [found] at computed
  rcases Prod.mk.inj (Option.some.inj computed) with ⟨oneWay, noWay⟩
  refine ⟨valid, flow, found, (reachable 3).mpr ⟨[0, 1, 2], ?_⟩, ?_, oneWay,
    (predecessors 4 1).mpr ⟨.goto 1, rfl, List.mem_singleton.mpr rfl⟩⟩
  · exact .next (.next (.next .here ⟨.branch 1 1 1, rfl, by decide⟩)
      ⟨.branch 1 0 2, rfl, by decide⟩) ⟨.branch 1 2 3, rfl, by decide⟩
  · intro listed
    rcases (reachable 4).mp listed with ⟨_, walk⟩
    cases walk with
    | next _ step => exact absurd ((predecessors _ 4).mpr step) (by simp [noWay])

end Body
end BorrowChecker
