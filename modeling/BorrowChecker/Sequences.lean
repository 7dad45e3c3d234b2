import BorrowChecker.Fault

namespace BorrowChecker

/-!
Sequences of steps that may fail.

A sequence succeeds if each of its steps does.  The lemmas here say so for the
forms in which the library runs through a list: for effect, for a list of
results, and for an accumulated result.  The last comes with the rule that what
every step preserves holds in the end.
-/

variable {ε α β : Type}

theorem bind_eq_ok {first : Except ε α} {next : α → Except ε β} {result : β} :
    first >>= next = .ok result ↔ ∃ value, first = .ok value ∧ next value = .ok result := by
  cases first with
  | ok value => simp [bind, Except.bind]
  | error cause => simp [bind, Except.bind]

theorem toOption_eq_some {outcome : Except ε α} {value : α} :
    outcome.toOption = some value ↔ outcome = .ok value := by
  cases outcome <;> simp [Except.toOption]

/-- A sequence of two steps fails where one of them does. -/
theorem bind_eq_error {first : Except ε α} {next : α → Except ε β} {cause : ε} :
    first >>= next = .error cause ↔
      first = .error cause ∨ ∃ value, first = .ok value ∧ next value = .error cause := by
  cases first with
  | ok value => simp [bind, Except.bind]
  | error reason => simp [bind, Except.bind]

theorem forM_eq_ok {members : List α} {visit : α → Except ε Unit} :
    members.forM visit = .ok () ↔ ∀ member ∈ members, visit member = .ok () := by
  induction members with
  | nil => simp [pure, Except.pure]
  | cons first rest inductionHypothesis =>
      simp only [List.forM_eq_forM] at inductionHypothesis
      rw [List.forM_eq_forM, List.forM_cons, bind_eq_ok, inductionHypothesis]
      constructor
      · rintro ⟨⟨⟩, head, tail⟩
        exact List.forall_mem_cons.mpr ⟨head, tail⟩
      · intro all
        exact ⟨(), List.forall_mem_cons.mp all⟩

/-- Runs with the same steps have the same outcome. -/
theorem forM_congr {members : List α} {first second : α → Except ε Unit}
    (same : ∀ member ∈ members, first member = second member) :
    members.forM first = members.forM second := by
  induction members with
  | nil => rfl
  | cons head rest inductionHypothesis =>
      rw [List.forall_mem_cons] at same
      simp only [List.forM_eq_forM] at inductionHypothesis ⊢
      rw [List.forM_cons, List.forM_cons, same.1, inductionHypothesis same.2]

/-- A run stops for the reason for which one of its steps fails. -/
theorem exists_of_forM_eq_error {members : List α} {visit : α → Except ε Unit} {cause : ε}
    (stopped : members.forM visit = .error cause) :
    ∃ member ∈ members, visit member = .error cause := by
  induction members with
  | nil => simp [pure, Except.pure] at stopped
  | cons first rest inductionHypothesis =>
      simp only [List.forM_eq_forM] at inductionHypothesis stopped
      rw [List.forM_cons] at stopped
      cases visited : visit first with
      | error reason =>
          rw [visited] at stopped
          exact ⟨first, List.mem_cons_self, visited.trans stopped⟩
      | ok value =>
          rw [visited] at stopped
          rcases inductionHypothesis stopped with ⟨member, listed, failed⟩
          exact ⟨member, List.mem_cons_of_mem _ listed, failed⟩

/-- Results of a successful run stand at the positions of their arguments. -/
theorem mapM_eq_ok {members : List α} {visit : α → Except ε β} {results : List β} :
    members.mapM visit = .ok results ↔ members.map visit = results.map .ok := by
  induction members generalizing results with
  | nil => cases results <;> simp [pure, Except.pure]
  | cons first rest inductionHypothesis =>
      simp only [List.mapM_cons, bind_eq_ok, inductionHypothesis]
      cases results with
      | nil => simp [pure, Except.pure]
      | cons head tail =>
          simp only [pure, Except.pure, Except.ok.injEq, List.cons.injEq, List.map_cons]
          constructor
          · rintro ⟨value, found, others, mapped, rfl, rfl⟩
            exact ⟨found, mapped⟩
          · rintro ⟨found, mapped⟩
            exact ⟨head, found, tail, mapped, rfl, rfl⟩

theorem length_of_mapM {members : List α} {visit : α → Except ε β} {results : List β}
    (succeeded : members.mapM visit = .ok results) : results.length = members.length := by
  have lengths := congrArg List.length (mapM_eq_ok.mp succeeded)
  simpa using lengths.symm

/-- The result at a position belongs to the argument at that position. -/
theorem getElem?_of_mapM {members : List α} {visit : α → Except ε β} {results : List β}
    (succeeded : members.mapM visit = .ok results) (position : Nat) (result : β) :
    results[position]? = some result ↔
      ∃ member, members[position]? = some member ∧ visit member = .ok result := by
  have entries := congrArg (fun list => list[position]?) (mapM_eq_ok.mp succeeded)
  simp only [List.getElem?_map] at entries
  cases here : members[position]? with
  | none =>
      cases there : results[position]? with
      | none => simp
      | some value => simp [here, there] at entries
  | some member =>
      cases there : results[position]? with
      | none => simp [here, there] at entries
      | some value =>
          have visited : visit member = .ok value := by simpa [here, there] using entries
          simp [visited]

/-- Every argument of a successful run has its result among the results. -/
theorem exists_of_mapM {members : List α} {visit : α → Except ε β} {results : List β}
    (succeeded : members.mapM visit = .ok results) {member : α} (listed : member ∈ members) :
    ∃ result ∈ results, visit member = .ok result := by
  have image : visit member ∈ results.map .ok :=
    mapM_eq_ok.mp succeeded ▸ List.mem_map_of_mem listed
  rcases List.mem_map.mp image with ⟨result, inResults, same⟩
  exact ⟨result, inResults, same.symm⟩

/-- Every result of a successful run belongs to an argument. -/
theorem exists_of_mem_mapM {members : List α} {visit : α → Except ε β} {results : List β}
    (succeeded : members.mapM visit = .ok results) {result : β} (listed : result ∈ results) :
    ∃ member ∈ members, visit member = .ok result := by
  have image : .ok result ∈ members.map visit :=
    mapM_eq_ok.mp succeeded ▸ List.mem_map_of_mem listed
  exact List.mem_map.mp image

theorem mapM_ok_of_forall {members : List α} {visit : α → Except ε β}
    (succeeds : ∀ member ∈ members, ∃ result, visit member = .ok result) :
    ∃ results, members.mapM visit = .ok results := by
  induction members with
  | nil => exact ⟨[], rfl⟩
  | cons first rest inductionHypothesis =>
      rcases succeeds first List.mem_cons_self with ⟨head, found⟩
      rcases inductionHypothesis fun member listed =>
        succeeds member (List.mem_cons_of_mem _ listed) with ⟨tail, others⟩
      refine ⟨head :: tail, mapM_eq_ok.mpr ?_⟩
      simp [found, mapM_eq_ok.mp others]

theorem mapM_eq_some_map {members : List α} {visit : α → Option β} {result : α → β}
    (succeeds : ∀ member ∈ members, visit member = some (result member)) :
    members.mapM visit = some (members.map result) := by
  induction members with
  | nil => rfl
  | cons first rest inductionHypothesis =>
      rcases List.forall_mem_cons.mp succeeds with ⟨head, tail⟩
      rw [List.mapM_cons, head, inductionHypothesis tail]
      rfl

/-- Accumulating runs with the same steps have the same outcome. -/
theorem foldlM_congr {members : List α} {first second : β → α → Except ε β}
    (same : ∀ member ∈ members, ∀ current, first current member = second current member)
    (start : β) : members.foldlM first start = members.foldlM second start := by
  induction members generalizing start with
  | nil => rfl
  | cons head rest inductionHypothesis =>
      rw [List.forall_mem_cons] at same
      rw [List.foldlM_cons, List.foldlM_cons, same.1]
      congr 1
      funext after
      exact inductionHypothesis same.2 after

/-- A run succeeds if every step does and keeps what the next one relies on. -/
theorem foldlM_ok_of_invariant {motive : β → Prop} {members : List α}
    {visit : β → α → Except ε β} {start : β} (initially : motive start)
    (succeeds : ∀ current, motive current → ∀ member ∈ members,
      ∃ after, visit current member = .ok after ∧ motive after) :
    ∃ result, members.foldlM visit start = .ok result ∧ motive result := by
  induction members generalizing start with
  | nil => exact ⟨start, rfl, initially⟩
  | cons first rest inductionHypothesis =>
      rcases succeeds start initially first List.mem_cons_self with ⟨middle, stepped, holds⟩
      rcases inductionHypothesis holds fun current holds member listed =>
        succeeds current holds member (List.mem_cons_of_mem _ listed) with
        ⟨result, remaining, holdsAfter⟩
      exact ⟨result, bind_eq_ok.mpr ⟨middle, stepped, remaining⟩, holdsAfter⟩

/-- A run succeeds if every step does, wherever it starts. -/
theorem foldlM_ok_of_forall {members : List α} {visit : β → α → Except ε β}
    (succeeds : ∀ current, ∀ member ∈ members, ∃ after, visit current member = .ok after)
    (start : β) : ∃ result, members.foldlM visit start = .ok result := by
  have everywhere : ∀ current, True → ∀ member ∈ members,
      ∃ after, visit current member = .ok after ∧ True := by
    intro current _ member listed
    rcases succeeds current member listed with ⟨after, stepped⟩
    exact ⟨after, stepped, trivial⟩
  have initially : (fun _ : β => True) start := trivial
  rcases foldlM_ok_of_invariant initially everywhere with ⟨result, succeeded, _⟩
  exact ⟨result, succeeded⟩

/-- What every successful step preserves holds at the end of a successful run. -/
theorem foldlM_preserves {motive : β → Prop} {members : List α} {visit : β → α → Except ε β}
    {start result : β} (succeeded : members.foldlM visit start = .ok result)
    (initially : motive start)
    (kept : ∀ current, motive current → ∀ member ∈ members, ∀ after,
      visit current member = .ok after → motive after) : motive result := by
  induction members generalizing start with
  | nil =>
      have unchanged : start = result := by simpa [pure, Except.pure] using succeeded
      exact unchanged ▸ initially
  | cons first rest inductionHypothesis =>
      rw [List.foldlM_cons, bind_eq_ok] at succeeded
      rcases succeeded with ⟨middle, stepped, remaining⟩
      exact inductionHypothesis remaining (kept start initially first List.mem_cons_self _ stepped)
        fun current holds member listed =>
          kept current holds member (List.mem_cons_of_mem _ listed)

/-- A successful run made each of its steps; what that step established and all
later steps preserve holds at the end. -/
theorem foldlM_established {motive : β → Prop} {members : List α}
    {visit : β → α → Except ε β} {start result : β} {member : α}
    (succeeded : members.foldlM visit start = .ok result) (listed : member ∈ members)
    (established : ∀ current after, visit current member = .ok after → motive after)
    (kept : ∀ current, motive current → ∀ other ∈ members, ∀ after,
      visit current other = .ok after → motive after) : motive result := by
  induction members generalizing start with
  | nil => simp at listed
  | cons first rest inductionHypothesis =>
      rw [List.foldlM_cons, bind_eq_ok] at succeeded
      rcases succeeded with ⟨middle, stepped, remaining⟩
      have keptLater : ∀ current, motive current → ∀ other ∈ rest, ∀ after,
          visit current other = .ok after → motive after :=
        fun current holds other inRest => kept current holds other (List.mem_cons_of_mem _ inRest)
      rcases List.mem_cons.mp listed with rfl | later
      · exact foldlM_preserves remaining (established start middle stepped) keptLater
      · exact inductionHypothesis remaining later keptLater

end BorrowChecker
