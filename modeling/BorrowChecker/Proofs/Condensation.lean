import BorrowChecker.Proofs.FirstOccurrences
import BorrowChecker.Proofs.Reachability
import BorrowChecker.Region.Condensation

namespace BorrowChecker

/-!
Propagation over components is exact.

What is needed of the search for components is a contract: every node is in one
component, and two nodes are in the same one if and only if each can be reached
from the other.  Then a component can be reached from another one if and only if
some, equivalently every, node of it can be reached from a node of the other.
Sweeping over the arcs between components neither loses numbers nor invents any,
and when it stops every set contains those that its arcs lead to.  The set of a
component therefore ends with what is contributed by the nodes that can be reached
from it, whatever the order of the components is.
-/

namespace Digraph

variable {size : Nat}

theorem mem_arcs_iff {graph : Digraph size} {source target : Nat} :
    (source, target) ∈ graph.arcs ↔ target ∈ graph.neighbours source := by
  simp only [arcs, List.mem_flatMap, List.mem_range, List.mem_map, Prod.mk.injEq]
  constructor
  · rintro ⟨_, _, _, arc, rfl, rfl⟩
    exact arc
  · intro arc
    exact ⟨source, (lt_size_of_mem_neighbours arc).1, target, arc, rfl, rfl⟩

theorem mem_reached_iff {graph : Digraph size} {start node : Nat} :
    node ∈ graph.reached start ↔ Reach.Leads graph.neighbours start node :=
  Reach.mem_closure_iff _ _ _
    (fun _ _ arc => List.mem_range.mpr (lt_size_of_mem_neighbours arc).2) node

/-- The lists are the components of a graph: every node is in one of them, and in the
same one as exactly the nodes that can be reached from it and from which it can be
reached. -/
structure IsCondensation (graph : Digraph size) (components : List (List Nat)) : Prop where
  inside : ∀ component ∈ components, ∀ node ∈ component, node < size
  covered : ∀ node < size, ∃ component ∈ components, node ∈ component
  disjoint : components.Pairwise fun left right => ∀ node ∈ left, node ∉ right
  strong : ∀ component ∈ components, ∀ first ∈ component, ∀ second, second ∈ component ↔
    Reach.Leads graph.neighbours first second ∧ Reach.Leads graph.neighbours second first

/-- A search that finds the components of every graph, in any order. -/
structure ComponentSearch where
  find : (size : Nat) → Digraph size → List (List Nat)
  finds : ∀ size (graph : Digraph size), graph.IsCondensation (find size graph)

/-! ## Searching from every node -/

theorem lt_size_of_leads {graph : Digraph size} {source target : Nat} (inside : source < size)
    (leads : Reach.Leads graph.neighbours source target) : target < size :=
  leads.preserves inside fun _ _ _ arc => (lt_size_of_mem_neighbours arc).2

theorem isReached_iff {graph : Digraph size} {source target : Nat} (inside : source < size) :
    isReached graph.reachTable source target = true ↔
      Reach.Leads graph.neighbours source target := by
  simp only [isReached, reachTable, List.getElem?_map, List.getElem?_range inside,
    Option.map_some, Option.any_some, IndexSet.contains_ofList, Bool.and_eq_true,
    decide_eq_true_eq, List.contains_iff_mem, mem_reached_iff, and_iff_right_iff_imp]
  exact lt_size_of_leads inside

theorem mem_componentOf_iff {graph : Digraph size} {node other : Nat} (inside : node < size) :
    other ∈ componentOf graph.reachTable node ↔
      Reach.Leads graph.neighbours node other ∧ Reach.Leads graph.neighbours other node := by
  rw [componentOf, List.mem_filter, List.mem_range, Bool.and_eq_true, isReached_iff inside]
  constructor
  · rintro ⟨otherInside, forth, back⟩
    exact ⟨forth, (isReached_iff otherInside).mp back⟩
  · rintro ⟨forth, back⟩
    have otherInside := lt_size_of_leads inside forth
    exact ⟨otherInside, forth, (isReached_iff otherInside).mpr back⟩

theorem mem_components_iff {graph : Digraph size} {component : List Nat} :
    component ∈ graph.components ↔
      ∃ node < size, componentOf graph.reachTable node = component := by
  simp [components, List.mem_eraseDups]

/-- Nodes of one component have the same component. -/
theorem componentOf_eq {graph : Digraph size} {first second : Nat} (inside : first < size)
    (shared : second ∈ componentOf graph.reachTable first) :
    componentOf graph.reachTable second = componentOf graph.reachTable first := by
  rcases (mem_componentOf_iff inside).mp shared with ⟨forth, back⟩
  have otherInside := lt_size_of_leads inside forth
  refine List.filter_congr fun node listed => ?_
  have nodeInside := List.mem_range.mp listed
  rw [Bool.eq_iff_iff, Bool.and_eq_true, Bool.and_eq_true, isReached_iff otherInside,
    isReached_iff nodeInside, isReached_iff inside, isReached_iff nodeInside]
  constructor
  · rintro ⟨out, home⟩
    exact ⟨forth.trans out, home.trans back⟩
  · rintro ⟨out, home⟩
    exact ⟨back.trans out, home.trans forth⟩

private theorem isCondensation_components (graph : Digraph size) :
    graph.IsCondensation graph.components := by
  refine ⟨?_, ?_, ?_, ?_⟩
  · intro component listed node member
    rcases mem_components_iff.mp listed with ⟨_, _, rfl⟩
    exact List.mem_range.mp (List.mem_filter.mp member).1
  · intro node inside
    exact ⟨_, mem_components_iff.mpr ⟨node, inside, rfl⟩,
      (mem_componentOf_iff inside).mpr ⟨.refl node, .refl node⟩⟩
  · refine (nodup_eraseDups _).imp_of_mem ?_
    intro left right ofLeft ofRight different node inLeft inRight
    rcases mem_components_iff.mp ofLeft with ⟨first, firstInside, rfl⟩
    rcases mem_components_iff.mp ofRight with ⟨second, secondInside, rfl⟩
    exact different ((componentOf_eq firstInside inLeft).symm.trans
      (componentOf_eq secondInside inRight))
  · intro component listed first ofFirst second
    rcases mem_components_iff.mp listed with ⟨node, inside, rfl⟩
    have firstInside := List.mem_range.mp (List.mem_filter.mp ofFirst).1
    rw [← componentOf_eq inside ofFirst]
    exact mem_componentOf_iff firstInside

def ComponentSearch.fromEveryNode : ComponentSearch :=
  ⟨fun _ => components, fun _ => isCondensation_components⟩

/-- A node is in one component only. -/
theorem IsCondensation.position_unique {graph : Digraph size} {components : List (List Nat)}
    (condenses : graph.IsCondensation components) {first second node : Nat}
    {left right : List Nat} (atFirst : components[first]? = some left)
    (atSecond : components[second]? = some right) (inLeft : node ∈ left)
    (inRight : node ∈ right) : first = second := by
  rcases List.getElem?_eq_some_iff.mp atFirst with ⟨firstInside, rfl⟩
  rcases List.getElem?_eq_some_iff.mp atSecond with ⟨secondInside, rfl⟩
  have apart := List.pairwise_iff_getElem.mp condenses.disjoint
  rcases Nat.lt_trichotomy first second with before | same | after
  · exact absurd inRight (apart first second firstInside secondInside before node inLeft)
  · exact same
  · exact absurd inLeft (apart second first secondInside firstInside after node inRight)

end Digraph

namespace Condensation

variable {size : Nat} {graph : Digraph size} {components : List (List Nat)}

/-! ## The component of each node -/

theorem mem_memberships_iff {node position : Nat} :
    (node, position) ∈ memberships components ↔
      ∃ component, components[position]? = some component ∧ node ∈ component := by
  simp only [memberships, List.mem_flatMap, List.mem_map, Prod.mk.injEq, Prod.exists,
    List.mem_zipIdx_iff_getElem?]
  constructor
  · rintro ⟨component, _, there, _, member, rfl, rfl⟩
    exact ⟨component, there, member⟩
  · rintro ⟨component, there, member⟩
    exact ⟨component, position, there, node, member, rfl, rfl⟩

/-- Entries that do not contradict each other are all found afterwards. -/
theorem exists_replaced {entries : List (Nat × Nat)} {start : List Nat}
    (inside : ∀ entry ∈ entries, entry.1 < start.length) :
    ∃ found, entries.foldlM (fun found entry => replaceAt found entry.1 entry.2) start = .ok found ∧
      found.length = start.length ∧
      ∀ node value, (∀ other, (node, other) ∈ entries → other = value) →
        (start[node]? = some value ∨ (node, value) ∈ entries) → found[node]? = some value := by
  induction entries generalizing start with
  | nil => exact ⟨start, rfl, rfl, by simp⟩
  | cons first rest inductionHypothesis =>
      rcases first with ⟨position, entered⟩
      rw [List.forall_mem_cons] at inside
      have replaced : replaceAt start position entered = .ok (start.set position entered) := by
        rw [replaceAt, if_pos inside.1]
      have restInside : ∀ entry ∈ rest, entry.1 < (start.set position entered).length := by
        simpa using inside.2
      rcases inductionHypothesis restInside with ⟨found, others, sameLength, finds⟩
      refine ⟨found, bind_eq_ok.mpr ⟨_, replaced, others⟩, by simpa using sameLength, ?_⟩
      intro node value functional present
      refine finds node value
        (fun other listed => functional other (List.mem_cons_of_mem _ listed)) ?_
      by_cases here : position = node
      · subst here
        rw [functional entered List.mem_cons_self]
        exact .inl (by simp [inside.1])
      · rw [List.getElem?_set_ne here]
        refine present.imp_right fun listed => ?_
        rcases List.mem_cons.mp listed with same | later
        · exact absurd (Prod.mk.inj same).1.symm here
        · exact later

/-- Each node gets the position of its component. -/
theorem exists_owners (condenses : graph.IsCondensation components) :
    ∃ owners, Condensation.owners size components = .ok owners ∧ owners.length = size ∧
      ∀ node position : Nat, owners[node]? = some position ↔
        ∃ component, components[position]? = some component ∧ node ∈ component := by
  have inside : ∀ entry ∈ memberships components,
      entry.1 < (List.replicate size 0).length := by
    intro entry listed
    rcases mem_memberships_iff.mp listed with ⟨component, there, member⟩
    rw [List.length_replicate]
    exact condenses.inside component (List.mem_of_getElem? there) _ member
  rcases exists_replaced inside with ⟨owners, found, sameLength, finds⟩
  rw [List.length_replicate] at sameLength
  have owned : ∀ (node position : Nat) component, components[position]? = some component →
      node ∈ component → owners[node]? = some position := by
    intro node position component there member
    refine finds node position ?_ (.inr (mem_memberships_iff.mpr ⟨component, there, member⟩))
    intro other listed
    rcases mem_memberships_iff.mp listed with ⟨otherComponent, otherThere, otherMember⟩
    exact condenses.position_unique otherThere there otherMember member
  refine ⟨owners, found, sameLength, fun node position => ⟨?_, ?_⟩⟩
  · intro isOwner
    have nodeInside : node < size := sameLength ▸ (List.getElem?_eq_some_iff.mp isOwner).1
    rcases condenses.covered node nodeInside with ⟨component, listed, member⟩
    rcases List.mem_iff_getElem?.mp listed with ⟨actual, there⟩
    have same := Option.some.inj ((owned node actual component there member).symm.trans isOwner)
    exact ⟨component, same ▸ there, member⟩
  · rintro ⟨component, there, member⟩
    exact owned node position component there member

theorem ownerArc_eq_ok {owners : List Nat} {arc link : Nat × Nat} :
    ownerArc owners arc = .ok link ↔
      owners[arc.1]? = some link.1 ∧ owners[arc.2]? = some link.2 := by
  simp only [ownerArc, bind_eq_ok, requireAt_natCast, pure, Except.pure, Except.ok.injEq]
  constructor
  · rintro ⟨_, ofSource, _, ofTarget, rfl⟩
    exact ⟨ofSource, ofTarget⟩
  · rintro ⟨ofSource, ofTarget⟩
    exact ⟨link.1, ofSource, link.2, ofTarget, rfl⟩

/-- The arcs between components are those between their nodes. -/
theorem exists_condense {owners : List Nat} {count : Nat} {arcs : List (Nat × Nat)}
    (bounded : ∀ owner ∈ owners, owner < count)
    (inside : ∀ arc ∈ arcs, arc.1 < owners.length ∧ arc.2 < owners.length) :
    ∃ links, condense owners count arcs = .ok links ∧
      ∀ first second, second ∈ links.neighbours first ↔ first ≠ second ∧
        ∃ source target, (source, target) ∈ arcs ∧
          owners[source]? = some first ∧ owners[target]? = some second := by
  have connects : ∀ arc ∈ arcs, ∃ link, ownerArc owners arc = .ok link := by
    intro arc listed
    have bounds := inside arc listed
    exact ⟨(owners[arc.1], owners[arc.2]), ownerArc_eq_ok.mpr
      ⟨List.getElem?_eq_getElem bounds.1, List.getElem?_eq_getElem bounds.2⟩⟩
  rcases mapM_ok_of_forall connects with ⟨links, mapped⟩
  have linksInside : ∀ link ∈ links.filter fun link => link.1 != link.2,
      link.1 < count ∧ link.2 < count := by
    intro link listed
    rcases exists_of_mem_mapM mapped (List.mem_filter.mp listed).1 with ⟨arc, _, connected⟩
    rcases ownerArc_eq_ok.mp connected with ⟨ofSource, ofTarget⟩
    exact ⟨bounded _ (List.mem_of_getElem? ofSource), bounded _ (List.mem_of_getElem? ofTarget)⟩
  rcases Digraph.exists_ofArcs linksInside with ⟨condensed, made, arcsOf⟩
  refine ⟨condensed, bind_eq_ok.mpr ⟨links, mapped, made⟩, ?_⟩
  intro first second
  rw [arcsOf, List.mem_filter, and_comm, bne_iff_ne]
  refine and_congr_right fun _ => ⟨fun listed => ?_, ?_⟩
  · rcases exists_of_mem_mapM mapped listed with ⟨⟨source, target⟩, isArc, connected⟩
    exact ⟨source, target, isArc, ownerArc_eq_ok.mp connected⟩
  · rintro ⟨source, target, isArc, ofSource, ofTarget⟩
    rcases exists_of_mapM mapped isArc with ⟨link, listed, connected⟩
    rcases ownerArc_eq_ok.mp connected with ⟨isFirst, isSecond⟩
    have same : link = (first, second) :=
      Prod.ext (Option.some.inj (isFirst.symm.trans ofSource))
        (Option.some.inj (isSecond.symm.trans ofTarget))
    exact same ▸ listed

/-! ## Sweeping -/

def Holds (sets : List IntSet) (position : Nat) (value : Int) : Prop :=
  ∃ set, sets[position]? = some set ∧ set.contains value = true

/-- Sets that came from given ones by taking over sets along arcs: nothing was lost, and
every number was in a set further down at the start. -/
structure Grown {count : Nat} (links : Digraph count) (start sets : List IntSet) : Prop where
  length : sets.length = start.length
  kept : ∀ position value, Holds start position value → Holds sets position value
  sound : ∀ position value, Holds sets position value →
    ∃ lower, Reach.Leads links.neighbours position lower ∧ Holds start lower value

theorem holds_set {sets : List IntSet} {first second : Nat} {set other : IntSet}
    (ofFirst : sets[first]? = some set) (ofSecond : sets[second]? = some other)
    (position : Nat) (value : Int) :
    Holds (sets.set first (set.union other)) position value ↔
      Holds sets position value ∨ (position = first ∧ Holds sets second value) := by
  rcases List.getElem?_eq_some_iff.mp ofFirst with ⟨inside, rfl⟩
  by_cases here : position = first
  · subst here
    simp [Holds, ofSecond, inside]
  · simp [Holds, here, List.getElem?_set_ne (Ne.symm here)]

theorem Grown.absorb {count : Nat} {links : Digraph count} {start : List IntSet}
    (enough : start.length = count) {state : Bool × List IntSet}
    (grown : Grown links start state.2) {arc : Nat × Nat} (listed : arc ∈ links.arcs) :
    ∃ after, absorb state arc = .ok after ∧ Grown links start after.2 := by
  have isArc := Digraph.mem_arcs_iff.mp listed
  have bounds := Digraph.lt_size_of_mem_neighbours isArc
  have sizes := grown.length.trans enough
  have ofSource := List.getElem?_eq_getElem (sizes ▸ bounds.1)
  have ofTarget := List.getElem?_eq_getElem (sizes ▸ bounds.2)
  refine ⟨_, absorb_eq_ok.mpr ⟨_, _, ofSource, ofTarget, rfl⟩, ?_, ?_, ?_⟩
  · rw [List.length_set, grown.length]
  · intro position value present
    exact (holds_set ofSource ofTarget position value).mpr
      (.inl (grown.kept position value present))
  · intro position value present
    rcases (holds_set ofSource ofTarget position value).mp present with old | ⟨rfl, taken⟩
    · exact grown.sound position value old
    · rcases grown.sound arc.2 value taken with ⟨lower, leads, required⟩
      exact ⟨lower, .step isArc leads, required⟩

theorem Grown.sweep {count : Nat} {links : Digraph count} {start sets : List IntSet}
    (enough : start.length = count) (grown : Grown links start sets) :
    ∃ after, sweep links.arcs sets = .ok after ∧ Grown links start after.2 := by
  have initially : Grown links start (false, sets).2 := grown
  exact foldlM_ok_of_invariant
    (motive := fun state : Bool × List IntSet => Grown links start state.2) initially
      fun _ grown _ listed => grown.absorb enough listed

/-- A sweep that has changed something says so in the end. -/
theorem changed_of_absorbed {arcs : List (Nat × Nat)} {state after : Bool × List IntSet}
    (swept : arcs.foldlM absorb state = .ok after) (changed : state.1 = true) :
    after.1 = true := by
  refine foldlM_preserves (motive := fun state => state.1 = true) swept changed ?_
  intro current already arc _ next absorbed
  rcases absorb_eq_ok.mp absorbed with ⟨_, _, _, _, rfl⟩
  simp [already]

/-- A sweep that changed nothing found every set contained in those with arcs to it. -/
theorem holds_of_swept {arcs : List (Nat × Nat)} {sets after : List IntSet}
    (swept : sweep arcs sets = .ok (false, after)) {first second : Nat}
    (listed : (first, second) ∈ arcs) (value : Int) (present : Holds sets second value) :
    Holds sets first value := by
  unfold sweep at swept
  induction arcs with
  | nil => simp at listed
  | cons arc rest inductionHypothesis =>
      rcases bind_eq_ok.mp swept with ⟨state, absorbed, sweptRest⟩
      rcases absorb_eq_ok.mp absorbed with ⟨set, other, ofSource, ofTarget, rfl⟩
      have still : set.union other = set := by
        refine Classical.byContradiction fun grown => ?_
        have changed := changed_of_absorbed sweptRest (by simpa using grown)
        simp at changed
      have unchanged := set_eq_self ofSource
      rcases List.mem_cons.mp listed with rfl | later
      · have joined := (holds_set ofSource ofTarget first value).mpr (.inr ⟨rfl, present⟩)
        rwa [still, unchanged] at joined
      · refine inductionHypothesis ?_ later
        simpa [still, unchanged] using sweptRest

/-- Sweeping comes to rest with sets that hold exactly the numbers of the sets that
their arcs lead to. -/
theorem exists_settle {count : Nat} (links : Digraph count) {start : List IntSet}
    (enough : start.length = count) :
    ∃ settled, settle links.arcs start = .ok settled ∧ settled.length = count ∧
      ∀ position value, Holds settled position value ↔
        ∃ lower, Reach.Leads links.neighbours position lower ∧ Holds start lower value := by
  suffices further : ∀ sets, Grown links start sets →
      ∃ settled, settle links.arcs sets = .ok settled ∧ Grown links start settled ∧
        ∀ first second, second ∈ links.neighbours first →
          ∀ value, Holds settled second value → Holds settled first value by
    rcases further start ⟨rfl, fun _ _ present => present,
      fun position value present => ⟨position, .refl position, present⟩⟩ with
      ⟨settled, done, grown, closed⟩
    refine ⟨settled, done, grown.length.trans enough, fun position value => ⟨grown.sound _ _, ?_⟩⟩
    rintro ⟨lower, leads, present⟩
    induction leads with
    | refl node => exact grown.kept node value present
    | step arc _ inductionHypothesis => exact closed _ _ arc value (inductionHypothesis present)
  intro sets grown
  fun_induction settle links.arcs sets with
  | case1 sets fault failed =>
      rcases grown.sweep enough with ⟨_, succeeded, _⟩
      rw [failed] at succeeded
      cases succeeded
  | case2 sets after still =>
      have same : after = sets := (progress_sweep still).still rfl
      refine ⟨after, rfl, same ▸ grown, ?_⟩
      intro first second arc value present
      rw [same] at present ⊢
      exact holds_of_swept still (Digraph.mem_arcs_iff.mpr arc) value present
  | case3 sets after changed inductionHypothesis =>
      rcases grown.sweep enough with ⟨_, succeeded, grownAfter⟩
      rw [changed] at succeeded
      rcases Except.ok.inj succeeded with rfl
      exact inductionHypothesis grownAfter

/-! ## Propagation -/

private theorem owner_lt_length {owners : List Nat}
    (owned : ∀ node position : Nat, owners[node]? = some position ↔
      ∃ component, components[position]? = some component ∧ node ∈ component)
    {owner : Nat} (listed : owner ∈ owners) : owner < components.length := by
  rcases List.mem_iff_getElem?.mp listed with ⟨node, isOwner⟩
  rcases (owned node owner).mp isOwner with ⟨component, there, _⟩
  exact (List.getElem?_eq_some_iff.mp there).1

/-- Positions of components and arcs between them, as they are computed for a graph. -/
structure Condensed (graph : Digraph size) (components : List (List Nat)) (owners : List Nat)
    (links : Digraph components.length) : Prop extends graph.IsCondensation components where
  owned : ∀ node position : Nat, owners[node]? = some position ↔
    ∃ component, components[position]? = some component ∧ node ∈ component
  linked : ∀ first second, second ∈ links.neighbours first ↔ first ≠ second ∧
    ∃ source target, target ∈ graph.neighbours source ∧
      owners[source]? = some first ∧ owners[target]? = some second

namespace Condensed

variable {owners : List Nat} {links : Digraph components.length}

theorem exists_owner (condensed : Condensed graph components owners links) {node : Nat}
    (inside : node < size) : ∃ position, owners[node]? = some position := by
  rcases condensed.covered node inside with ⟨component, listed, member⟩
  rcases List.mem_iff_getElem?.mp listed with ⟨position, there⟩
  exact ⟨position, (condensed.owned node position).mpr ⟨component, there, member⟩⟩

theorem lt_size (condensed : Condensed graph components owners links) {node owner : Nat}
    (isOwner : owners[node]? = some owner) : node < size := by
  rcases (condensed.owned node owner).mp isOwner with ⟨component, there, member⟩
  exact condensed.inside component (List.mem_of_getElem? there) node member

theorem leads_of_same_owner (condensed : Condensed graph components owners links)
    {first second position : Nat} (ofFirst : owners[first]? = some position)
    (ofSecond : owners[second]? = some position) :
    Reach.Leads graph.neighbours first second := by
  rcases (condensed.owned first position).mp ofFirst with ⟨component, there, inFirst⟩
  rcases (condensed.owned second position).mp ofSecond with ⟨other, otherThere, inSecond⟩
  rcases Option.some.inj (there.symm.trans otherThere) with rfl
  exact ((condensed.strong component (List.mem_of_getElem? there) first inFirst second).mp
    inSecond).1

/-- A component leads to another one exactly if their nodes do. -/
theorem leads_iff (condensed : Condensed graph components owners links)
    {node other first second : Nat} (ofNode : owners[node]? = some first)
    (ofOther : owners[other]? = some second) :
    Reach.Leads links.neighbours first second ↔ Reach.Leads graph.neighbours node other := by
  constructor
  · intro leads
    induction leads generalizing node with
    | refl position => exact condensed.leads_of_same_owner ofNode ofOther
    | step link _ inductionHypothesis =>
        rcases (condensed.linked _ _).mp link with ⟨_, source, target, arc, ofSource, ofTarget⟩
        exact (condensed.leads_of_same_owner ofNode ofSource).trans
          (.step arc (inductionHypothesis ofTarget ofOther))
  · intro leads
    induction leads generalizing first with
    | refl node =>
        rcases Option.some.inj (ofNode.symm.trans ofOther) with rfl
        exact .refl first
    | @step node middle _ arc _ inductionHypothesis =>
        rcases condensed.exists_owner (Digraph.lt_size_of_mem_neighbours arc).2 with
          ⟨position, ofMiddle⟩
        have rest := inductionHypothesis ofMiddle ofOther
        by_cases same : first = position
        · exact same ▸ rest
        · exact .step ((condensed.linked first position).mpr
            ⟨same, node, middle, arc, ofNode, ofMiddle⟩) rest

/-- The set of a component ends with what is contributed by the nodes that can be reached
from a node of it. -/
theorem holds_settled (condensed : Condensed graph components owners links)
    {points : Nat → IntSet} {gathered settled : List IntSet}
    (gathers : ∀ position value, Holds gathered position value ↔
      ∃ component, components[position]? = some component ∧
        ∃ node ∈ component, (points node).contains value = true)
    (settles : ∀ position value, Holds settled position value ↔
      ∃ lower, Reach.Leads links.neighbours position lower ∧ Holds gathered lower value)
    {node owner : Nat} (isOwner : owners[node]? = some owner) (value : Int) :
    Holds settled owner value ↔
      ∃ lower, Reach.Leads graph.neighbours node lower ∧
        (points lower).contains value = true := by
  rw [settles]
  constructor
  · rintro ⟨position, leads, held⟩
    rcases (gathers position value).mp held with ⟨component, there, lower, member, contributed⟩
    have ofLower := (condensed.owned lower position).mpr ⟨component, there, member⟩
    exact ⟨lower, (condensed.leads_iff isOwner ofLower).mp leads, contributed⟩
  · rintro ⟨lower, leads, contributed⟩
    have lowerInside := Digraph.lt_size_of_leads (condensed.lt_size isOwner) leads
    rcases condensed.exists_owner lowerInside with ⟨position, ofLower⟩
    rcases (condensed.owned lower position).mp ofLower with ⟨component, there, member⟩
    exact ⟨position, (condensed.leads_iff isOwner ofLower).mpr leads,
      (gathers position value).mpr ⟨component, there, lower, member, contributed⟩⟩

end Condensed

theorem exists_condensed (condenses : graph.IsCondensation components) {arcs : List (Nat × Nat)}
    (inside : ∀ arc ∈ arcs, arc.1 < size ∧ arc.2 < size)
    (arcsOf : ∀ source target, target ∈ graph.neighbours source ↔ (source, target) ∈ arcs) :
    ∃ owners links, Condensation.owners size components = .ok owners ∧ owners.length = size ∧
      condense owners components.length arcs = .ok links ∧
      Condensed graph components owners links := by
  rcases exists_owners condenses with ⟨owners, found, sameLength, owned⟩
  rcases exists_condense (fun _ => owner_lt_length owned) (sameLength ▸ inside) with
    ⟨links, linksFound, linked⟩
  exact ⟨owners, links, found, sameLength, linksFound,
    { condenses with owned, linked := by simpa only [arcsOf] using linked }⟩

/-- What the nodes of a component contribute is found by joining. -/
theorem exists_gather {contributed : Nat → Except Fault IntSet} {points : Nat → IntSet}
    {component : List Nat}
    (contributes : ∀ node ∈ component, contributed node = .ok (points node)) :
    ∃ set, gather contributed component = .ok set ∧
      ∀ value, set.contains value = true ↔
        ∃ node ∈ component, (points node).contains value = true := by
  refine ⟨component.foldl (fun set node => set.union (points node)) IntSet.empty, ?_, ?_⟩
  · unfold gather
    generalize IntSet.empty = start
    induction component generalizing start with
    | nil => rfl
    | cons first rest inductionHypothesis =>
        rw [List.forall_mem_cons] at contributes
        rw [List.foldlM_cons, contributes.1]
        exact inductionHypothesis contributes.2 _
  · intro value
    simpa using IntSet.contains_foldl_union component points IntSet.empty value

theorem exists_gathered {contributed : Nat → Except Fault IntSet} {points : Nat → IntSet}
    (contributes : ∀ component ∈ components, ∀ node ∈ component,
      contributed node = .ok (points node)) :
    ∃ gathered, components.mapM (gather contributed) = .ok gathered ∧
      ∀ position value, Holds gathered position value ↔
        ∃ component, components[position]? = some component ∧
          ∃ node ∈ component, (points node).contains value = true := by
  have gathers : ∀ component ∈ components, ∃ set, gather contributed component = .ok set := by
    intro component listed
    rcases exists_gather (contributes component listed) with ⟨set, found, _⟩
    exact ⟨set, found⟩
  rcases mapM_ok_of_forall gathers with ⟨gathered, gatheredAll⟩
  refine ⟨gathered, gatheredAll, fun position value => ?_⟩
  simp only [Holds, getElem?_of_mapM gatheredAll]
  constructor
  · rintro ⟨set, ⟨component, there, found⟩, member⟩
    rcases exists_gather (contributes component (List.mem_of_getElem? there)) with
      ⟨joined, alsoFound, members⟩
    rcases Except.ok.inj (found.symm.trans alsoFound) with rfl
    exact ⟨component, there, (members value).mp member⟩
  · rintro ⟨component, there, contributing⟩
    rcases exists_gather (contributes component (List.mem_of_getElem? there)) with
      ⟨joined, found, members⟩
    exact ⟨joined, ⟨component, there, found⟩, (members value).mpr contributing⟩

/-- Whatever search finds the components, each node ends up with exactly the numbers
contributed by the nodes that can be reached from it. -/
theorem exists_propagate (search : Digraph.ComponentSearch) {arcs : List (Nat × Nat)}
    (inside : ∀ arc ∈ arcs, arc.1 < size ∧ arc.2 < size)
    {contributed : Nat → Except Fault IntSet} {points : Nat → IntSet}
    (contributes : ∀ node < size, contributed node = .ok (points node)) :
    ∃ (graph : Digraph size) (sets : List IntSet),
      (∀ source target, target ∈ graph.neighbours source ↔ (source, target) ∈ arcs) ∧
      propagate search.find size arcs contributed = .ok sets ∧ sets.length = size ∧
      ∀ node value, Holds sets node value ↔ node < size ∧
        ∃ lower, Reach.Leads graph.neighbours node lower ∧
          (points lower).contains value = true := by
  rcases Digraph.exists_ofArcs inside with ⟨graph, made, arcsOf⟩
  have condenses := search.finds size graph
  rcases exists_condensed condenses inside arcsOf with
    ⟨owners, links, ownersFound, ownersLength, linksFound, condensed⟩
  rcases exists_gathered fun component listed node member =>
    contributes node (condenses.inside component listed node member) with
    ⟨gathered, gatheredAll, gathers⟩
  rcases exists_settle links (length_of_mapM gatheredAll) with
    ⟨settled, settledFound, settledLength, settles⟩
  have looksUp : ∀ owner ∈ owners, ∃ set, requireAt settled ((owner : Nat) : Int) = .ok set :=
    fun owner listed => exists_requireAt (settledLength ▸ owner_lt_length condensed.owned listed)
  rcases mapM_ok_of_forall looksUp with ⟨sets, setsFound⟩
  refine ⟨graph, sets, arcsOf, ?_, (length_of_mapM setsFound).trans ownersLength, ?_⟩
  · simp only [propagate, bind_eq_ok]
    exact ⟨graph, made, owners, ownersFound, gathered, gatheredAll, links, linksFound, settled,
      settledFound, setsFound⟩
  · intro node value
    simp only [Holds, getElem?_of_mapM setsFound, requireAt_natCast]
    constructor
    · rintro ⟨set, ⟨owner, isOwner, there⟩, member⟩
      exact ⟨condensed.lt_size isOwner,
        (condensed.holds_settled gathers settles isOwner value).mp ⟨set, there, member⟩⟩
    · rintro ⟨nodeInside, contributing⟩
      rcases condensed.exists_owner nodeInside with ⟨owner, isOwner⟩
      rcases (condensed.holds_settled gathers settles isOwner value).mpr contributing with
        ⟨set, there, member⟩
      exact ⟨set, ⟨owner, isOwner, there⟩, member⟩

end Condensation
end BorrowChecker
