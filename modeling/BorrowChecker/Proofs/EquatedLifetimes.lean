import BorrowChecker.Proofs.LifetimeSolution
import BorrowChecker.Proofs.TypedBodies

namespace BorrowChecker

/-!
Lifetimes that were equated.

Unifying two types succeeds if and only if they have the same shape, and then it
records that the lifetimes at equal positions outlive each other, and nothing else.
What is recorded is never taken back.  However the graph grows afterwards, the two
lifetimes of such a pair lead to each other, so every solution gives them the same
points.  The graph may be any graph.
-/

namespace OutlivesGraph

private theorem exists_unified_iff (graph : OutlivesGraph) (left right : Ty) :
    (∃ after, graph.unified left right = .ok after) ↔ left.sameShape right = true := by
  constructor
  · rintro ⟨after, unified⟩
    exact Ty.sameShape_of_matching (unified_eq_ok.mp unified).1
  · intro same
    exact ⟨_, unified_eq_ok.mpr ⟨Ty.matching_of_sameShape same, rfl⟩⟩

/-! ## Tied lifetimes -/

/-- Both lifetimes are mentioned and, unless they are the same, each is recorded to
outlive the other. -/
structure Tied (graph : OutlivesGraph) (first second : Lifetime) : Prop where
  mentionsFirst : first ∈ graph.lifetimes
  mentionsSecond : second ∈ graph.lifetimes
  forth : first ≠ second → graph.outlives first second = true
  back : first ≠ second → graph.outlives second first = true

private theorem tied_equate (graph : OutlivesGraph) (left right : Lifetime) :
    (graph.equate left right).Tied left right where
  mentionsFirst := by simp [equate]
  mentionsSecond := by simp [equate]
  forth different := (outlives_equate graph left right _ _).mpr
    (.inr ⟨different, .inl ⟨rfl, rfl⟩⟩)
  back different := (outlives_equate graph left right _ _).mpr
    (.inr ⟨different, .inr ⟨rfl, rfl⟩⟩)

namespace Tied

variable {graph : OutlivesGraph} {first second : Lifetime}

theorem symm (tied : graph.Tied first second) : graph.Tied second first :=
  ⟨tied.mentionsSecond, tied.mentionsFirst, fun different => tied.back different.symm,
    fun different => tied.forth different.symm⟩

/-- An operation keeps lifetimes tied. -/
theorem perform (tied : graph.Tied first second) (operation : Operation) :
    (graph.perform operation).Tied first second := by
  cases operation with
  | register lifetime =>
      refine ⟨?_, ?_, ?_, ?_⟩ <;>
        simp only [OutlivesGraph.perform, mem_lifetimes_register, outlives_register]
      · exact .inl tied.mentionsFirst
      · exact .inl tied.mentionsSecond
      · exact tied.forth
      · exact tied.back
  | add long short =>
      refine ⟨?_, ?_, ?_, ?_⟩ <;>
        simp only [OutlivesGraph.perform, mem_lifetimes_add, outlives_add]
      · exact .inl tied.mentionsFirst
      · exact .inl tied.mentionsSecond
      · exact fun different => .inl (tied.forth different)
      · exact fun different => .inl (tied.back different)

theorem performAll (tied : graph.Tied first second) (operations : List Operation) :
    (operations.foldl OutlivesGraph.perform graph).Tied first second := by
  induction operations generalizing graph with
  | nil => exact tied
  | cons operation rest inductionHypothesis => exact inductionHypothesis (tied.perform operation)

/-- Equating further pairs keeps lifetimes tied. -/
theorem equateAll (tied : graph.Tied first second) (pairs : List (Lifetime × Lifetime)) :
    (graph.equateAll pairs).Tied first second := by
  induction pairs generalizing graph with
  | nil => exact tied
  | cons pair rest inductionHypothesis =>
      have equated := (tied.perform (.add pair.1 pair.2)).perform (.add pair.2 pair.1)
      exact inductionHypothesis equated

end Tied

private theorem tied_equateAll (graph : OutlivesGraph) {pairs : List (Lifetime × Lifetime)}
    {first second : Lifetime} (listed : (first, second) ∈ pairs) :
    (graph.equateAll pairs).Tied first second := by
  induction pairs generalizing graph with
  | nil => simp at listed
  | cons pair rest inductionHypothesis =>
      rcases List.mem_cons.mp listed with rfl | later
      · exact (tied_equate graph first second).equateAll rest
      · exact inductionHypothesis (graph.equate pair.1 pair.2) later

/-! ## The points of tied lifetimes -/

namespace Tied

variable {graph : OutlivesGraph} {first second : Lifetime}

theorem isAliveAt (tied : graph.Tied first second) {requirements : Requirements}
    {space : PointSpace} {solution : LifetimeSets}
    (solves : graph.Solves requirements space solution) {index : Int}
    (alive : solution.isAliveAt second index = true) :
    solution.isAliveAt first index = true := by
  rcases (solves.alive second index).mp alive with ⟨shorter, outlasts, required⟩
  exact (solves.alive first index).mpr
    ⟨shorter, (outlasts_of_outlives tied.forth).trans outlasts, required⟩

/-- Every solution gives tied lifetimes the same points. -/
theorem exists_common_set (tied : graph.Tied first second) (requirements : Requirements)
    (space : PointSpace) :
    ∃ solution set, graph.solve requirements space = .ok solution ∧
      solution.set? first = some set ∧ solution.set? second = some set := by
  rcases graph.exists_solve requirements space with ⟨solution, solved, solves⟩
  rcases Option.isSome_iff_exists.mp ((solves.known first).mpr (.inl tied.mentionsFirst)) with
    ⟨set, ofFirst⟩
  rcases Option.isSome_iff_exists.mp ((solves.known second).mpr (.inl tied.mentionsSecond)) with
    ⟨other, ofSecond⟩
  have forth {index : Int} := @isAliveAt _ _ _ tied _ _ _ solves index
  have back {index : Int} := @isAliveAt _ _ _ tied.symm _ _ _ solves index
  simp only [LifetimeSets.isAliveAt, ofFirst, ofSecond, Option.any_some] at forth back
  have same : other = set := IntSet.ext_contains fun _ => ⟨forth, back⟩
  exact ⟨solution, set, solved, ofFirst, same ▸ ofSecond⟩

end Tied

/-- Unification of two types succeeds if and only if they have the same shape.  The
demands afterwards are those from before and the two between different lifetimes at
equal positions of the types.  In whatever way the graph is extended later, each
solution of it gives the lifetimes at equal positions one and the same set of
points. -/
theorem unified_equates_positions (graph : OutlivesGraph) (left right : Ty) :
    ((∃ after, graph.unified left right = .ok after) ↔ left.sameShape right = true) ∧
    ∀ after, graph.unified left right = .ok after →
      left.lifetimes.length = right.lifetimes.length ∧
      (∀ long short, after.outlives long short = true ↔
        graph.outlives long short = true ∨
          (long ≠ short ∧ ∃ position : Nat,
            (left.lifetimes[position]? = some long ∧ right.lifetimes[position]? = some short) ∨
            (left.lifetimes[position]? = some short ∧
              right.lifetimes[position]? = some long))) ∧
      ∀ (position : Nat) first second, left.lifetimes[position]? = some first →
        right.lifetimes[position]? = some second →
          ∀ (operations : List Operation) (requirements : Requirements) (space : PointSpace),
            ∃ solution set,
              (operations.foldl perform after).solve requirements space = .ok solution ∧
              solution.set? first = some set ∧ solution.set? second = some set := by
  refine ⟨exists_unified_iff graph left right, ?_⟩
  intro after unified
  rcases unified_eq_ok.mp unified with ⟨matched, rfl⟩
  have listed : ∀ first second, (first, second) ∈ left.lifetimes.zip right.lifetimes ↔
      ∃ position : Nat, left.lifetimes[position]? = some first ∧
        right.lifetimes[position]? = some second := by
    intro first second
    simp only [List.mem_iff_getElem?, List.getElem?_zip_eq_some]
  refine ⟨(Ty.matching_eq_zip matched).1, ?_, ?_⟩
  · intro long short
    rw [outlives_equateAll, listed, listed, ← exists_or]
  · intro position first second atLeft atRight operations requirements space
    have tied := tied_equateAll graph ((listed first second).mpr ⟨position, atLeft, atRight⟩)
    exact (tied.performAll operations).exists_common_set requirements space

/-- A shared borrow of a structure and a unique one, whose two arguments are the
same lifetime. -/
def sharedPair : Ty :=
  .borrow (.named "a") .shared (.struct "Pair" [.named "b", .named "c"])

def uniquePair : Ty :=
  .borrow (.inferred 1) .unique (.struct "Pair" [.inferred 2, .inferred 2])

/-- Both arguments of the first structure are tied to the one lifetime of the second,
so they have the same points in every solution, although nothing was recorded between
them. -/
theorem sharedPair_arguments_agree :
    ∃ after, empty.unified sharedPair uniquePair = .ok after ∧
      after.outlives (.named "b") (.inferred 2) = true ∧
      after.outlives (.inferred 2) (.named "c") = true ∧
      after.outlives (.named "b") (.named "c") = false ∧
      ∀ (operations : List Operation) (requirements : Requirements) (space : PointSpace),
        ∃ solution set,
          (operations.foldl perform after).solve requirements space = .ok solution ∧
          solution.set? (.named "b") = some set ∧ solution.set? (.named "c") = some set := by
  rcases unified_equates_positions empty sharedPair uniquePair with ⟨succeeds, equates⟩
  rcases succeeds.mpr (by decide) with ⟨after, unified⟩
  rcases equates after unified with ⟨_, recorded, solved⟩
  refine ⟨after, unified, (recorded _ _).mpr (.inr ⟨by decide, 1, .inl ⟨rfl, rfl⟩⟩),
    (recorded _ _).mpr (.inr ⟨by decide, 2, .inr ⟨rfl, rfl⟩⟩), ?_, ?_⟩
  · rw [Bool.eq_false_iff, Ne, recorded]
    rintro (old | ⟨_, position, ⟨_, atRight⟩ | ⟨_, atRight⟩⟩)
    · simp at old
    · have among := List.mem_of_getElem? atRight
      revert among
      decide
    · have among := List.mem_of_getElem? atRight
      revert among
      decide
  · intro operations requirements space
    rcases solved 1 _ _ rfl rfl operations requirements space with
      ⟨solution, set, solvedBoth, ofFirst, common⟩
    rcases solved 2 _ _ rfl rfl operations requirements space with
      ⟨same, other, solvedAgain, ofSecond, again⟩
    rcases Except.ok.inj (solvedAgain.symm.trans solvedBoth) with rfl
    rcases Option.some.inj (again.symm.trans common) with rfl
    exact ⟨same, other, solvedBoth, ofFirst, ofSecond⟩

end OutlivesGraph
end BorrowChecker
