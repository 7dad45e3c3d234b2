import BorrowChecker.Proofs.UnreachablePlaces

namespace BorrowChecker

/-!
Structures that lack a field.

A structure with tracked fields is uninitialized only as long as one of its declared
fields is.  No rule is needed for this: it holds of every typed body, whether it is
accepted or not, also where a field of an uninitialized structure is written.  Each
event keeps it at all levels, above and below the place it concerns, and so does the
join of ways that leave different fields behind.
-/

namespace Body

variable {body : Body} {tracked : List Place}

/-- A tracked field is a declared field of the structure at the place before it. -/
theorem structAt_of_tracked_field (typed : body.PlacesTyped)
    (found : body.trackedPlaces = .ok tracked) {place : Place} {index : Int}
    (listed : place.field index ∈ tracked) :
    ∃ decl, body.structAt place = .ok decl ∧
      ∃ position < decl.fields.length, index = (position : Nat) := by
  rcases tracked_cases typed found listed with fieldTyped | isPart
  · rcases exists_structAt fieldTyped with ⟨decl, declared⟩
    rcases step_of_structAt fieldTyped declared with ⟨position, below, sameStep⟩
    exact ⟨decl, declared, position, below, Step.field.inj sameStep⟩
  · rcases isPart with ⟨parent, decl, position, below, declared, same⟩
    rcases Place.field_inj.mp same with ⟨rfl, sameIndex⟩
    exact ⟨decl, declared, position, below, sameIndex⟩

/-- The places that are uninitialized at a label, if there are any, form a set in which
every structure has one of its fields. -/
theorem exists_descending_of_isUninit {flow : Flow} (hasFlow : body.flow = .ok flow)
    {analysis : Uninitialized} (computed : body.uninitialized flow = .ok analysis)
    {label : Nat} {place : Place} (missing : analysis.isUninit label place = true) :
    ∃ set, Descends analysis.tracked set ∧
      set.contains (placeNumber analysis.tracked place) = true ∧
      ∀ part ∈ analysis.tracked, set.contains (placeNumber analysis.tracked part) = true →
        analysis.isUninit label part = true := by
  rcases uninitialized_eq_ok computed with ⟨tracked, effects, found, determined, rfl⟩
  have distinct := nodup_trackedPlaces found
  rcases (Uninitialized.isUninit_iff distinct label place).mp missing with ⟨set, here, _, member⟩
  refine ⟨set, descends_uninitialized hasFlow found determined here, member, ?_⟩
  intro part listed present
  exact (Uninitialized.isUninit_iff distinct label part).mpr ⟨set, here, listed, present⟩

/-- An uninitialized structure lacks one of its declared fields, if any of its fields
is tracked.  So it counts as initialized as soon as all of them do, and likewise as
soon as everything that is tracked in its storage, at any depth and without further
fields, is initialized. -/
theorem uninit_structure_lacks_field (valid : body.IsValid) (typed : body.PlacesTyped) :
    ∃ flow, body.flow = .ok flow ∧
      ((∃ analysis, body.uninitialized flow = .ok analysis) ↔ body.MovesKnown) ∧
      ∀ analysis, body.uninitialized flow = .ok analysis →
        ∀ label, body.Reachable label → ∀ place ∈ analysis.tracked,
          (∃ index, place.field index ∈ analysis.tracked) →
            ∃ decl, body.structAt place = .ok decl ∧
              (analysis.isUninit label place = true → ∃ index < decl.fields.length,
                analysis.isUninit label (place.field (index : Nat)) = true) ∧
              ((∀ part ∈ analysis.tracked, part.isStoredIn place = true →
                  (∀ index, part.field index ∉ analysis.tracked) →
                    analysis.isUninit label part = false) →
                analysis.isUninit label place = false) := by
  rcases valid.inOrder with ⟨program, inOrder⟩
  rcases inOrder.exists_flow with ⟨flow, hasFlow⟩
  refine ⟨flow, hasFlow, exists_uninitialized_iff valid typed hasFlow, ?_⟩
  intro analysis computed label _ place listed hasFields
  rcases hasFields with ⟨someIndex, fieldTracked⟩
  have found : body.trackedPlaces = .ok analysis.tracked := by
    rcases uninitialized_eq_ok computed with ⟨tracked, _, found, _, rfl⟩
    exact found
  rcases structAt_of_tracked_field typed found fieldTracked with ⟨decl, declared, _⟩
  refine ⟨decl, declared, ?_, ?_⟩
  · intro missing
    rcases exists_descending_of_isUninit hasFlow computed missing with
      ⟨set, descends, member, alsoMissing⟩
    rcases descends place listed ⟨someIndex, fieldTracked⟩ member with ⟨index, isTracked, inner⟩
    rcases structAt_of_tracked_field typed found isTracked with ⟨again, alsoDeclared, isDeclared⟩
    rcases Except.ok.inj (alsoDeclared.symm.trans declared) with rfl
    rcases isDeclared with ⟨position, below, rfl⟩
    exact ⟨position, below, alsoMissing _ isTracked inner⟩
  · intro complete
    rw [Bool.eq_false_iff]
    intro missing
    rcases exists_descending_of_isUninit hasFlow computed missing with
      ⟨set, descends, member, alsoMissing⟩
    rcases descends.exists_stored_leaf listed member with
      ⟨part, partTracked, stored, noFields, present⟩
    have partMissing := alsoMissing part partTracked present
    rw [complete part partTracked stored noFields] at partMissing
    exact Bool.false_ne_true partMissing

/-- A body that fills a nested structure field by field.  On either of two ways it
starts with another field of the inner structure. -/
def filledInParts : Body :=
  { name := "filled"
    program := some (.ofDeclarations
      [{ name := "Inner"
         fields := [{ name := "first", type := .int }, { name := "second", type := .int }] },
       { name := "Outer"
         fields := [{ name := "inner", type := .struct "Inner" [] },
                    { name := "tail", type := .int }] }] [])
    locals := [
      { name := "out", kind := .result, type := .unit },
      { name := "flag", kind := .parameter, type := .bool },
      { name := "x", type := .struct "Outer" [] }]
    code := [
      { instr := some (.branch 1 1 2) },
      { instr := some (.assign (((Place.ofLocal 2).field 0).field 0) (.const 1) 3) },
      { instr := some (.assign (((Place.ofLocal 2).field 0).field 1) (.const 2) 3) },
      { instr := some (.assign (((Place.ofLocal 2).field 0).field 0) (.const 1) 4) },
      { instr := some (.assign (((Place.ofLocal 2).field 0).field 1) (.const 2) 5) },
      { instr := some (.assign ((Place.ofLocal 2).field 1) (.const 3) 6) },
      { instr := some (.assign (.ofLocal 0) .unit 7) },
      { instr := some .ret }] }

/-- Where the ways meet, both structures are uninitialized.  Once the inner one is
complete, the outer one still lacks its second field, and with that it is complete
too. -/
theorem filledInParts_lacks_field :
    ∃ flow analysis, filledInParts.flow = .ok flow ∧
      filledInParts.uninitialized flow = .ok analysis ∧
      analysis.isUninit 3 ((Place.ofLocal 2).field 0) = true ∧
      analysis.isUninit 5 ((Place.ofLocal 2).field 0) = false ∧
      analysis.isUninit 5 (.ofLocal 2) = true ∧
      (∃ decl, filledInParts.structAt (.ofLocal 2) = .ok decl ∧ ∃ index < decl.fields.length,
        analysis.isUninit 5 ((Place.ofLocal 2).field (index : Nat)) = true) ∧
      analysis.isUninit 6 (.ofLocal 2) = false := by
  let outer : Place := .ofLocal 2
  have valid : filledInParts.IsValid := rfl
  have typed : filledInParts.PlacesTyped := placesTyped_of_test (by decide +kernel)
  rcases uninit_structure_lacks_field valid typed with ⟨flow, hasFlow, _, lacking⟩
  have evaluated : (do
      let analysis ← filledInParts.uninitialized (← filledInParts.flow)
      return ((analysis.tracked.contains outer && analysis.tracked.contains (outer.field 0)) &&
        (analysis.isUninit 3 (outer.field 0) && !analysis.isUninit 5 (outer.field 0))) &&
        (analysis.isUninit 5 outer && analysis.tracked.all fun part =>
          !part.isStoredIn outer || (analysis.tracked.contains (part.field 0) ||
            !analysis.isUninit 6 part))).toOption = some true := by
    decide +kernel
  rw [hasFlow] at evaluated
  cases computed : filledInParts.uninitialized flow with
  | error fault => simp [computed, bind, Except.bind, Except.toOption] at evaluated
  | ok analysis =>
      simp only [computed, bind, Except.bind, pure, Except.pure, Except.toOption,
        Option.some.injEq, Bool.and_eq_true, List.contains_iff_mem, Bool.not_eq_true'] at evaluated
      rcases evaluated with ⟨⟨⟨isTracked, fieldTracked⟩, meeting, inner⟩, missing, filled⟩
      have beforeTail : Walk filledInParts.Edge filledInParts.entry.toNat [0, 1, 3, 4] 5 :=
        .next (.next (.next (.next .here ⟨_, rfl, by decide⟩) ⟨_, rfl, by decide⟩)
          ⟨_, rfl, by decide⟩) ⟨_, rfl, by decide⟩
      have behindTail : Walk filledInParts.Edge filledInParts.entry.toNat [0, 1, 3, 4, 5] 6 :=
        .next beforeTail ⟨_, rfl, by decide⟩
      have atTail := lacking analysis computed 5 ⟨_, beforeTail⟩ outer isTracked ⟨0, fieldTracked⟩
      have complete := lacking analysis computed 6 ⟨_, behindTail⟩ outer isTracked
        ⟨0, fieldTracked⟩
      rcases atTail with ⟨decl, declared, lacks, _⟩
      rcases complete with ⟨_, _, _, settled⟩
      refine ⟨flow, analysis, hasFlow, computed, meeting, inner, missing,
        ⟨decl, declared, lacks missing⟩, settled fun part listed stored noFields => ?_⟩
      have tested := List.all_eq_true.mp filled part listed
      rw [stored, Bool.not_true, Bool.false_or, Bool.or_eq_true, List.contains_iff_mem,
        Bool.not_eq_true'] at tested
      exact tested.resolve_left (noFields 0)

end Body
end BorrowChecker
