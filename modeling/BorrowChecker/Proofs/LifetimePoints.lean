import BorrowChecker.Proofs.CollectedDemands
import BorrowChecker.Proofs.LifetimeSolution
import BorrowChecker.Proofs.LiveLocals

namespace BorrowChecker

/-!
The points of a body at which its lifetimes are alive.

What is required of a lifetime concerns either a label or the caller point of a
generic.  At a label, the generics are required and the lifetimes in the types of
live locals.  At a caller point, only the generic itself is required that the
point belongs to.  A generic that is listed repeatedly has its caller point at the
last position, and its other positions stay unused.  Every number that occurs in a
solution is therefore the number of a point, and listing the points of a lifetime
never fails.
-/

namespace IntSet

/-- A set of small numbers lists them in the order of counting. -/
theorem toList_eq_range_filter {set : IntSet} {bound : Nat}
    (small : ∀ value, set.contains value = true → ∃ index : Nat, value = index ∧ index < bound) :
    set.toList =
      ((List.range bound).filter fun (index : Nat) => set.contains index).map Int.ofNat := by
  have increasing : (((List.range bound).filter fun (index : Nat) => set.contains index).map
      Int.ofNat).Pairwise (· < ·) := by
    rw [List.pairwise_map]
    refine (List.pairwise_lt_range.filter _).imp ?_
    intro left right less
    exact Int.ofNat_lt.mpr less
  have sameSet : set = ⟨_, increasing⟩ := by
    apply ext_contains
    intro value
    rw [← mem_toList_iff ⟨_, increasing⟩]
    simp only [List.mem_map, List.mem_filter, List.mem_range]
    constructor
    · intro member
      rcases small value member with ⟨index, rfl, below⟩
      exact ⟨index, ⟨below, member⟩, rfl⟩
    · rintro ⟨index, ⟨_, member⟩, rfl⟩
      exact member
  exact congrArg toList sameSet

end IntSet

namespace PointSpace

variable {space : PointSpace}

/-- The position of a generic is one at which it is listed. -/
theorem getElem?_of_genericIndex? {generic : Lifetime} {position : Nat}
    (found : space.genericIndex? generic = some position) :
    space.generics[position]? = some generic :=
  Table.getElem?_of_positions found

theorem exists_genericIndex? {generic : Lifetime} (listed : generic ∈ space.generics) :
    ∃ position, space.genericIndex? generic = some position :=
  Table.exists_positions listed

theorem index_caller_eq_ok {generic : Lifetime} {index : Int} :
    space.index (.caller generic) = .ok index ↔ space.callerIndex? generic = some index := by
  simp only [PointSpace.index]
  cases space.callerIndex? generic <;> simp

end PointSpace

namespace Body

variable {body : Body}

/-- A lifetime is required to be alive at a label: it is generic, or it occurs in the
type of a local that is live there. -/
def RequiredAt (body : Body) (liveness : Liveness) (lifetime : Lifetime) (label : Nat) : Prop :=
  lifetime ∈ body.generics ∨
    ∃ position ∈ liveness.liveAt label, ∃ entry, body.locals[position]? = some entry ∧
      lifetime ∈ entry.type.lifetimes

/-- Caller points are numbered after the labels, by the positions of the generics. -/
theorem callerIndex?_eq_some {lifetime : Lifetime} {index : Int} :
    body.pointSpace.callerIndex? lifetime = some index ↔
      ∃ position : Nat, body.pointSpace.genericIndex? lifetime = some position ∧
        index = (body.code.length + position : Nat) := by
  simp only [PointSpace.callerIndex?, Option.map_eq_some_iff, Option.bind_eq_bind,
    Option.bind_eq_some_iff, Option.pure_def, Option.some.injEq, pointSpace]
  constructor
  · rintro ⟨_, ⟨position, found, rfl⟩, rfl⟩
    exact ⟨position, found, by omega⟩
  · rintro ⟨position, found, rfl⟩
    exact ⟨position, ⟨position, found, rfl⟩, by omega⟩

private theorem exists_callerIndex? {generic : Lifetime} (listed : generic ∈ body.generics) :
    ∃ index, body.pointSpace.callerIndex? generic = some index := by
  have inSpace : generic ∈ body.pointSpace.generics := listed
  rcases PointSpace.exists_genericIndex? inSpace with ⟨position, found⟩
  exact ⟨_, callerIndex?_eq_some.mpr ⟨position, found, rfl⟩⟩

/-! ## What is required -/

private theorem mem_requirementsOfGeneric {generic : Lifetime} {pairs : List (Lifetime × Int)}
    (determined : body.requirementsOfGeneric generic = .ok pairs) {lifetime : Lifetime}
    {index : Int} :
    (lifetime, index) ∈ pairs ↔ lifetime = generic ∧
      (body.pointSpace.callerIndex? generic = some index ∨
        ∃ label < body.code.length, index = (label : Int)) := by
  rcases bind_eq_ok.mp determined with ⟨caller, atCaller, result⟩
  rw [← Except.ok.inj result, PointSpace.index_caller_eq_ok.mp atCaller]
  simp only [List.mem_map, List.mem_cons, labels, List.mem_range, Prod.mk.injEq, Option.some.injEq,
    eq_comm (a := generic), eq_comm (a := caller)]
  constructor
  · rintro ⟨_, here | ⟨label, below, rfl⟩, same, rfl⟩
    · exact ⟨same, .inl here⟩
    · exact ⟨same, .inr ⟨label, below, rfl⟩⟩
  · rintro ⟨same, here | ⟨label, below, rfl⟩⟩
    · exact ⟨index, .inl here, same, rfl⟩
    · exact ⟨_, .inr ⟨label, below, rfl⟩, same, rfl⟩

private theorem mem_requirementsOfLocal {label position : Nat} {pairs : List (Lifetime × Int)}
    (determined : body.requirementsOfLocal label position = .ok pairs) {lifetime : Lifetime}
    {index : Int} :
    (lifetime, index) ∈ pairs ↔ index = (label : Int) ∧
      ∃ entry, body.locals[position]? = some entry ∧ lifetime ∈ entry.type.lifetimes := by
  rcases bind_eq_ok.mp determined with ⟨entry, asked, result⟩
  have declared := requireAt_natCast.mp asked
  rw [← Except.ok.inj result, declared]
  simp [Ty.mem_freeLifetimes, and_comm, eq_comm]

/-- All that is required of a lifetime. -/
theorem contains_requirements_iff {liveness : Liveness} {requirements : Requirements}
    (determined : body.requirements liveness = .ok requirements) {lifetime : Lifetime}
    {index : Int} :
    (requirements.pointsOf lifetime).contains index = true ↔
      body.pointSpace.callerIndex? lifetime = some index ∨
        ∃ label < body.code.length, index = (label : Int) ∧
          body.RequiredAt liveness lifetime label := by
  rcases bind_eq_ok.mp determined with ⟨ofGenerics, genericsDone, determined⟩
  rcases bind_eq_ok.mp determined with ⟨ofLocals, localsDone, result⟩
  rw [← Except.ok.inj result, Requirements.contains_pointsOf_ofList, List.mem_append,
    List.mem_flatten, List.mem_flatten]
  constructor
  · rintro (⟨pairs, listed, member⟩ | ⟨pairs, listed, member⟩)
    · rcases exists_of_mem_mapM genericsDone listed with ⟨generic, isGeneric, required⟩
      rcases (mem_requirementsOfGeneric required).mp member with
        ⟨rfl, atCaller | ⟨label, below, same⟩⟩
      · exact .inl atCaller
      · exact .inr ⟨label, below, same, .inl isGeneric⟩
    · rcases List.mem_flatten.mp listed with ⟨atLabel, listed, inLabel⟩
      rcases exists_of_mem_mapM localsDone listed with ⟨label, isLabel, visited⟩
      rcases exists_of_mem_mapM visited inLabel with ⟨position, live, required⟩
      rcases (mem_requirementsOfLocal required).mp member with ⟨same, entry, declared, occurs⟩
      exact .inr ⟨label, List.mem_range.mp isLabel, same,
        .inr ⟨position, live, entry, declared, occurs⟩⟩
  · have ofGeneric (isGeneric : lifetime ∈ body.generics)
        (point : body.pointSpace.callerIndex? lifetime = some index ∨
          ∃ label < body.code.length, index = (label : Int)) :
        ∃ pairs ∈ ofGenerics, (lifetime, index) ∈ pairs := by
      rcases exists_of_mapM genericsDone isGeneric with ⟨pairs, listed, required⟩
      exact ⟨pairs, listed, (mem_requirementsOfGeneric required).mpr ⟨rfl, point⟩⟩
    rintro (atCaller | ⟨label, below, same, isGeneric | ⟨position, live, entry, declared, occurs⟩⟩)
    · rcases callerIndex?_eq_some.mp atCaller with ⟨position, found, _⟩
      have isGeneric := List.mem_of_getElem? (PointSpace.getElem?_of_genericIndex? found)
      exact .inl (ofGeneric isGeneric (.inl atCaller))
    · exact .inl (ofGeneric isGeneric (.inr ⟨label, below, same⟩))
    · rcases exists_of_mapM localsDone (List.mem_range.mpr below) with ⟨atLabel, listed, visited⟩
      rcases exists_of_mapM visited live with ⟨pairs, inLabel, required⟩
      exact .inr ⟨pairs, List.mem_flatten.mpr ⟨atLabel, listed, inLabel⟩,
        (mem_requirementsOfLocal required).mpr ⟨same, entry, declared, occurs⟩⟩

/-- Requirements are found for the live locals of a body: the generics have caller points and
only locals of the body are live. -/
theorem exists_requirements {liveness : Liveness}
    (inside : ∀ label, ∀ position ∈ liveness.liveAt label, position < body.locals.length) :
    ∃ requirements, body.requirements liveness = .ok requirements := by
  have generics : ∀ generic ∈ body.generics,
      ∃ pairs, body.requirementsOfGeneric generic = .ok pairs := by
    intro generic listed
    rcases exists_callerIndex? listed with ⟨index, found⟩
    exact ⟨_, bind_eq_ok.mpr ⟨index, PointSpace.index_caller_eq_ok.mpr found, rfl⟩⟩
  have locals : ∀ label ∈ body.labels, ∃ pairs,
      (liveness.liveAt label).mapM (body.requirementsOfLocal label) = .ok pairs := by
    refine fun label _ => mapM_ok_of_forall fun position live => ?_
    have declared := List.getElem?_eq_getElem (inside label position live)
    exact ⟨_, bind_eq_ok.mpr ⟨_, requireAt_natCast.mpr declared, rfl⟩⟩
  rcases mapM_ok_of_forall generics with ⟨ofGenerics, genericsDone⟩
  rcases mapM_ok_of_forall locals with ⟨ofLocals, localsDone⟩
  exact ⟨_, bind_eq_ok.mpr ⟨ofGenerics, genericsDone, bind_eq_ok.mpr ⟨ofLocals, localsDone, rfl⟩⟩⟩

theorem genericIndex?_lt {lifetime : Lifetime} {position : Nat}
    (found : body.pointSpace.genericIndex? lifetime = some position) :
    position < body.generics.length :=
  (List.getElem?_eq_some_iff.mp (PointSpace.getElem?_of_genericIndex? found)).1

namespace Analyzed

variable {analysis : Analysis}

theorem isAliveAt_iff (analyzed : body.Analyzed analysis) (lifetime : Lifetime) (index : Int) :
    analysis.lifetimes.isAliveAt lifetime index = true ↔
      ∃ shorter, analysis.graph.Outlasts lifetime shorter ∧
        (body.pointSpace.callerIndex? shorter = some index ∨
          ∃ label < body.code.length, index = (label : Int) ∧
            body.RequiredAt analysis.liveness shorter label) := by
  rcases analyzed.lifetimes with ⟨requirements, determined, solved⟩
  rw [(OutlivesGraph.solves_of_solve solved).alive]
  simp only [contains_requirements_iff determined]

/-- A lifetime is alive at a label where some lifetime that it outlives is
required. -/
theorem isAliveAt_label_iff (analyzed : body.Analyzed analysis) (lifetime : Lifetime)
    {label : Nat} (below : label < body.code.length) :
    analysis.lifetimes.isAliveAt lifetime label = true ↔
      ∃ shorter, analysis.graph.Outlasts lifetime shorter ∧
        body.RequiredAt analysis.liveness shorter label := by
  rw [analyzed.isAliveAt_iff]
  constructor
  · rintro ⟨shorter, outlasts, atCaller | ⟨other, _, same, required⟩⟩
    · rcases callerIndex?_eq_some.mp atCaller with ⟨position, _, same⟩
      omega
    · have equal : label = other := by omega
      exact ⟨shorter, outlasts, equal ▸ required⟩
  · rintro ⟨shorter, outlasts, required⟩
    exact ⟨shorter, outlasts, .inr ⟨label, below, rfl, required⟩⟩

/-- A lifetime is alive at the caller points of the generics that it outlives. -/
theorem isAliveAt_caller_iff (analyzed : body.Analyzed analysis) (lifetime : Lifetime)
    (position : Nat) :
    analysis.lifetimes.isAliveAt lifetime (body.code.length + position : Nat) = true ↔
      ∃ generic, analysis.graph.Outlasts lifetime generic ∧
        body.pointSpace.genericIndex? generic = some position := by
  rw [analyzed.isAliveAt_iff]
  constructor
  · rintro ⟨generic, outlasts, atCaller | ⟨label, below, same, _⟩⟩
    · rcases callerIndex?_eq_some.mp atCaller with ⟨other, found, same⟩
      have equal : other = position := by omega
      exact ⟨generic, outlasts, equal ▸ found⟩
    · omega
  · rintro ⟨generic, outlasts, found⟩
    exact ⟨generic, outlasts, .inl (callerIndex?_eq_some.mpr ⟨position, found, rfl⟩)⟩

private theorem lt_of_isAliveAt (analyzed : body.Analyzed analysis) {lifetime : Lifetime}
    {index : Int}
    (alive : analysis.lifetimes.isAliveAt lifetime index = true) :
    ∃ number : Nat, index = number ∧ number < body.code.length + body.generics.length := by
  rcases (analyzed.isAliveAt_iff lifetime index).mp alive with
    ⟨generic, _, atCaller | ⟨label, below, same, _⟩⟩
  · rcases callerIndex?_eq_some.mp atCaller with ⟨position, found, same⟩
    have inside := genericIndex?_lt found
    exact ⟨_, same, by omega⟩
  · exact ⟨label, same, by omega⟩

end Analyzed
end Body

/-! ## Listing the points of a lifetime -/

namespace Analysis

def aliveLabels (analysis : Analysis) (lifetime : Lifetime) : List Nat :=
  analysis.body.labels.filter fun label => analysis.lifetimes.isAliveAt lifetime label

def aliveCallers (analysis : Analysis) (lifetime : Lifetime) : List Lifetime :=
  ((List.range analysis.body.generics.length).filter fun position =>
    analysis.lifetimes.isAliveAt lifetime (analysis.body.code.length + position : Nat)).filterMap
      fun position => analysis.body.generics[position]?

end Analysis

namespace Body
namespace Analyzed

variable {body : Body} {analysis : Analysis}

theorem mem_aliveCallers_iff (analyzed : body.Analyzed analysis) (lifetime generic : Lifetime) :
    generic ∈ analysis.aliveCallers lifetime ↔
      generic ∈ body.generics ∧ analysis.graph.Outlasts lifetime generic := by
  simp only [Analysis.aliveCallers, analyzed.sameBody, List.mem_filterMap, List.mem_filter,
    List.mem_range, analyzed.isAliveAt_caller_iff]
  constructor
  · rintro ⟨position, ⟨_, other, outlasts, found⟩, here⟩
    have there : body.generics[position]? = some other :=
      PointSpace.getElem?_of_genericIndex? found
    have sameGeneric : other = generic := Option.some.inj (there.symm.trans here)
    exact ⟨List.mem_of_getElem? here, sameGeneric ▸ outlasts⟩
  · rintro ⟨listed, outlasts⟩
    have inSpace : generic ∈ body.pointSpace.generics := listed
    rcases PointSpace.exists_genericIndex? inSpace with ⟨position, found⟩
    exact ⟨position, ⟨genericIndex?_lt found, generic, outlasts, found⟩,
      PointSpace.getElem?_of_genericIndex? found⟩

private theorem point_label {label : Nat} (below : label < body.code.length) :
    body.pointSpace.point label = .ok (.label label) := by
  unfold PointSpace.point
  rw [if_pos (by simpa [pointSpace] using below)]

private theorem point_caller {position : Nat} {generic : Lifetime}
    (here : body.generics[position]? = some generic) :
    body.pointSpace.point (body.code.length + position : Nat) = .ok (.caller generic) := by
  have notLabel : ¬ ((body.code.length + position : Nat) : Int) < body.pointSpace.labels := by
    simp only [pointSpace]
    omega
  have difference : ((body.code.length + position : Nat) : Int) - body.pointSpace.labels =
      position := by
    simp only [pointSpace]
    omega
  have asked : requireAt body.pointSpace.generics (position : Int) = .ok generic :=
    requireAt_natCast.mpr here
  unfold PointSpace.point
  rw [if_neg notLabel, difference, asked]
  rfl

private theorem map_point_callers {positions : List Nat}
    (inside : ∀ position ∈ positions, position < body.generics.length) :
    positions.map (fun position => body.pointSpace.point (body.code.length + position : Nat)) =
      ((positions.filterMap fun position => body.generics[position]?).map Point.caller).map
        .ok := by
  induction positions with
  | nil => rfl
  | cons first rest inductionHypothesis =>
      rw [List.forall_mem_cons] at inside
      have here := List.getElem?_eq_getElem inside.1
      rw [List.map_cons, List.filterMap_cons_some here, List.map_cons, List.map_cons,
        point_caller here, inductionHypothesis inside.2]

/-- The points of a lifetime are labels, in order, and then the caller points of
generics. -/
theorem points_eq (analyzed : body.Analyzed analysis) (lifetime : Lifetime) :
    analysis.lifetimes.points lifetime =
      .ok ((analysis.aliveLabels lifetime).map (fun label => .label label) ++
        (analysis.aliveCallers lifetime).map .caller) := by
  rcases analyzed.lifetimes with ⟨_, _, solved⟩
  have sameSpace := (OutlivesGraph.solves_of_solve solved).space
  unfold LifetimeSets.points Analysis.aliveLabels Analysis.aliveCallers
  rw [analyzed.sameBody, sameSpace]
  cases known : analysis.lifetimes.set? lifetime with
  | none => simp [LifetimeSets.isAliveAt, known]
  | some set =>
      have alive : ∀ index : Int, analysis.lifetimes.isAliveAt lifetime index =
          set.contains index := by
        intro index
        simp [LifetimeSets.isAliveAt, known]
      have small : ∀ value, set.contains value = true →
          ∃ number : Nat, value = number ∧ number < body.code.length + body.generics.length :=
        fun value member => analyzed.lt_of_isAliveAt ((alive value).trans member)
      have members := IntSet.toList_eq_range_filter small
      simp only [alive]
      rw [mapM_eq_ok, members, List.range_add, List.filter_append, List.filter_map]
      simp only [List.map_append, List.map_map]
      congr 1
      · apply List.map_congr_left
        intro label listed
        exact point_label (List.mem_range.mp (List.mem_filter.mp listed).1)
      · have inside : ∀ position ∈ (List.range body.generics.length).filter fun position =>
            set.contains (body.code.length + position : Nat), position < body.generics.length :=
          fun position listed => List.mem_range.mp (List.mem_filter.mp listed).1
        have listedCallers := map_point_callers inside
        rw [List.map_map] at listedCallers
        exact listedCallers

end Analyzed
end Body
end BorrowChecker
