import BorrowChecker.Proofs.TornOwners

namespace BorrowChecker

/-!
Joining uninitialized places.

Effects do not distribute over joins in general.  The climb from a written field
stops at a structure with another missing field, so a field that is missing on one
path can keep a structure uninitialized which, on another path, the write would
complete.  The initialization rule excludes this: the structures around a written
place are initialized before the instruction.  What is missing of them afterwards
was taken away by the instruction itself, on every path alike.

So in a body that passes the rule, the analysis reports a place exactly if some
path, followed by itself, ends with it.
-/

/-! ## The climb from a written place -/

namespace Effect

variable {tracked : List Place}

/-- The climb erases nothing but owners. -/
theorem contains_settle_of_not_owner {bound number : Nat} {owners : List NumberedOwner}
    (others : ∀ owner ∈ owners, owner.place ≠ number) (set : IndexSet bound) :
    (settle set owners).contains number = set.contains number := by
  induction owners generalizing set with
  | nil => rfl
  | cons owner outer inductionHypothesis =>
      rcases List.forall_mem_cons.mp others with ⟨different, othersOuter⟩
      cases stops : owner.parts.any set.contains with
      | true => rw [settle_of_part stops]
      | false =>
          rw [settle_of_no_part stops, inductionHypothesis othersOuter, IndexSet.contains_erase]
          simp [different]

/-- Whether the climb erases a place around the written one depends only on what lies
within that place. -/
theorem contains_settle_congr {place part : Place} {owners : List Owner}
    (chain : OwnerChain tracked place owners) (listed : part ∈ tracked)
    (inside : place.isWithin part = true) (different : part ≠ place)
    {left right : IndexSet tracked.length}
    (agree : ∀ inner ∈ tracked, inner.isWithin part = true →
      left.contains (placeNumber tracked inner) = right.contains (placeNumber tracked inner)) :
    (settle left (owners.map (Owner.numbered tracked))).contains (placeNumber tracked part) =
      (settle right (owners.map (Owner.numbered tracked))).contains (placeNumber tracked part) := by
  induction chain generalizing left right with
  | ended => exact agree part listed part.isWithin_refl
  | @within parent index parts outer isTracked fields _ inductionHypothesis =>
      have around : parent.isWithin part = true :=
        ((Place.isWithin_extend_iff parent part (.field index)).mp inside).resolve_left different
      let owner := Owner.numbered tracked { place := parent, parts }
      have sameParts : owner.parts.any left.contains = owner.parts.any right.contains := by
        rw [Bool.eq_iff_iff, List.any_eq_true, List.any_eq_true]
        apply exists_congr
        intro number
        apply and_congr_right
        intro isPart
        rcases List.mem_map.mp isPart with ⟨field, isField, rfl⟩
        rcases fields field isField with ⟨fieldTracked, position, rfl⟩
        rw [agree _ fieldTracked (Place.isWithin_trans (parent.field_isWithin position) around)]
      rw [List.map_cons]
      cases stops : owner.parts.any left.contains with
      | true =>
          rw [settle_of_part stops, settle_of_part (sameParts ▸ stops)]
          exact agree part listed part.isWithin_refl
      | false =>
          rw [settle_of_no_part stops, settle_of_no_part (sameParts ▸ stops)]
          by_cases reached : part = parent
          · rw [reached]
            have gone : ∀ set : IndexSet tracked.length,
                (settle (set.erase owner.place) (outer.map (Owner.numbered tracked))).contains
                  (placeNumber tracked parent) = false := by
              intro set
              apply (settle_within _ _).absent
              simp [IndexSet.contains_erase, owner, Owner.numbered]
            exact (gone left).trans (gone right).symm
          · apply inductionHypothesis around reached
            intro inner innerTracked within
            rw [IndexSet.contains_erase, IndexSet.contains_erase,
              agree inner innerTracked within]

end Effect

namespace Body

variable {body : Body} {tracked : List Place}

/-- The owners that the climb visits are among the structures that the rule looks
at. -/
theorem place_mem_writtenOwners {target : Place} {owners : List Owner}
    (along : body.ownersAlong target.lineage = .ok owners) {owner : Owner}
    (listed : owner ∈ owners) : owner.place ∈ writtenOwners target.lineage := by
  induction target using Place.extend_induction generalizing owners with
  | atLocal root =>
      rw [← Except.ok.inj along] at listed
      exact absurd listed List.not_mem_nil
  | further place step inductionHypothesis =>
      cases step with
      | deref =>
          rw [Except.ok.inj (along.symm.trans (ownersAlong_deref place))] at listed
          exact absurd listed List.not_mem_nil
      | field index =>
          rcases ownersAlong_field along with ⟨decl, rest, _, alongRest, rfl⟩
          rw [← Place.field, writtenOwners_field]
          rcases List.mem_cons.mp listed with rfl | further
          · exact List.mem_cons_self
          · exact List.mem_cons_of_mem _ (inductionHypothesis alongRest further)

private theorem isWithin_owner {target : Place} {owners : List Owner}
    (chain : OwnerChain tracked target owners) {owner : Owner} (listed : owner ∈ owners) :
    target.isWithin owner.place = true := by
  induction chain with
  | ended => exact absurd listed List.not_mem_nil
  | @within parent index parts outer _ _ _ inductionHypothesis =>
      have inParent := parent.field_isWithin index
      rcases List.mem_cons.mp listed with rfl | further
      · exact inParent
      · exact Place.isWithin_trans inParent (inductionHypothesis further)

/-! ## One instruction -/

/-- The set from which the climb starts: the losses are added, and the written place
is taken out with its parts. -/
theorem contains_written {part : Place} (listed : part ∈ tracked) (losses : List Place)
    (target : Place) (set : IndexSet tracked.length) :
    ((((losses.map Event.deinit).map (Event.effect tracked)).foldl Effect.apply set).diff
        (regionOf tracked target)).contains (placeNumber tracked part) =
      ((set.contains (placeNumber tracked part) || losses.any fun place => part.isWithin place) &&
        !part.isWithin target) := by
  rw [IndexSet.contains_diff, contains_regionOf listed, contains_foldl_deinit listed]

/-- If the structures around the written place are initialized before an instruction,
then it depends on nothing but a place itself whether the place is uninitialized
afterwards. -/
theorem contains_events_of_contains (found : body.trackedPlaces = .ok tracked) {label : Nat}
    {instr : Instr} (here : body.instr? label = some instr) {events : List Event}
    (asked : body.events instr = .ok events) {set other : IndexSet tracked.length}
    (around : ∀ target, instr.target? = some target → ∀ owner ∈ writtenOwners target.lineage,
      owner ∈ tracked → set.contains (placeNumber tracked owner) = false)
    {part : Place} (listed : part ∈ tracked)
    (carried : set.contains (placeNumber tracked part) = true →
      other.contains (placeNumber tracked part) = true)
    (missing : ((events.map (Event.effect tracked)).foldl Effect.apply set).contains
      (placeNumber tracked part) = true) :
    ((events.map (Event.effect tracked)).foldl Effect.apply other).contains
      (placeNumber tracked part) = true := by
  cases writes : instr.target? with
  | none =>
      rw [events_of_no_target asked writes, contains_foldl_deinit listed, Bool.or_eq_true]
        at missing ⊢
      exact missing.imp_left carried
  | some target =>
      rcases events_of_target asked writes with ⟨owners, along, rfl⟩
      have chain := ownerChain_of_ownersAlong found (inCode_of_target here writes)
        ((Place.mem_lineage_iff target target).mpr target.isWithin_refl) along
      rw [List.map_append, List.foldl_append] at missing ⊢
      have remained := Effect.settle_within _ _ _ missing
      rw [contains_written listed, Bool.and_eq_true, Bool.not_eq_true', Bool.or_eq_true] at remained
      rcases remained with ⟨present, unwritten⟩
      by_cases isOwner : ∃ owner ∈ owners, owner.place = part
      · rcases isOwner with ⟨owner, isListed, rfl⟩
        have wasThere := around target writes _ (place_mem_writtenOwners along isListed) listed
        rw [wasThere, List.any_eq_true] at present
        rcases present.resolve_left Bool.false_ne_true with ⟨lost, isLost, inside⟩
        have agree : ∀ inner ∈ tracked, inner.isWithin owner.place = true → ∀ before,
            ((((body.losses instr).map Event.deinit).map (Event.effect tracked)).foldl
              Effect.apply before |>.diff (regionOf tracked target)).contains
                (placeNumber tracked inner) = !inner.isWithin target := by
          intro inner innerTracked within before
          have taken : (body.losses instr).any (fun place => inner.isWithin place) = true :=
            List.any_eq_true.mpr ⟨lost, isLost, Place.isWithin_trans within inside⟩
          rw [contains_written innerTracked, taken, Bool.or_true, Bool.true_and]
        have same := Effect.contains_settle_congr chain listed (isWithin_owner chain isListed)
          (Place.ne_of_not_isWithin unwritten)
          (fun inner innerTracked within => (agree inner innerTracked within set).trans
            (agree inner innerTracked within other).symm)
        exact same.symm.trans missing
      · have others : ∀ owner ∈ owners.map (Owner.numbered tracked),
            owner.place ≠ placeNumber tracked part := by
          intro numbered isNumbered
          rcases List.mem_map.mp isNumbered with ⟨owner, isListed, rfl⟩
          exact placeNumber_ne listed fun same => isOwner ⟨owner, isListed, same⟩
        refine (Effect.contains_settle_of_not_owner others _).trans ?_
        rw [contains_written listed, unwritten, Bool.not_false, Bool.and_true, Bool.or_eq_true]
        exact present.imp_left carried

/-! ## Accepted bodies -/

/-- In a body that passes the initialization rule joining neither loses nor adds
uninitialized places: a tracked place is reported before a reachable label if and
only if it is uninitialized at the end of some path from the entry, along which the
instructions are applied one after another. -/
theorem isUninit_iff_followed_path {analysis : Analysis} (analyzed : body.analyze = .ok analysis)
    (silent : analysis.firstViolation .initialization = .ok none) :
    ∀ label, body.Reachable label → ∀ place ∈ analysis.uninitialized.tracked,
      (analysis.uninitialized.isUninit label place = true ↔
        ∃ labels set, Walk body.Edge body.entry.toNat labels label ∧
          body.missingAfter analysis.uninitialized.tracked labels = .ok set ∧
          set.contains (placeNumber analysis.uninitialized.tracked place) = true) := by
  have accepted := acceptedBy_of_firstViolation analyzed silent
  have admitted := fun label (reached : body.Reachable label) instr
    (here : body.instr? label = some instr) => accepted.admitted reached here
  have computed := accepted.uninitialized
  generalize analysis.uninitialized = uninitialized at admitted computed
  rcases uninitialized_eq_ok computed with ⟨tracked, effects, found, determined, rfl⟩
  have distinct := nodup_trackedPlaces found
  intro label reached place listed
  rcases (Flow.solveForward_isSome_iff (body.entryState tracked) (initTransfer effects)
    accepted.flow label).mpr reached with ⟨final, solved⟩
  have pathwise := Flow.contains_solveForward_iff_foldl (body.entryState tracked)
    (initTransfer effects) (fun label _ _ smaller => initTransfer_mono label smaller)
    accepted.flow (placeNumber tracked place) ?_ solved
  · rw [Uninitialized.isUninit_iff distinct]
    constructor
    · intro reported
      rcases reported with ⟨set, there, _, missing⟩
      rw [Option.some.inj (there.symm.trans solved)] at missing
      rcases pathwise.mp missing with ⟨labels, walk, ends⟩
      exact ⟨labels, _, walk, missingAfter_of_effects accepted.flow determined walk, ends⟩
    · intro path
      rcases path with ⟨labels, set, walk, followed, ends⟩
      rw [missingAfter_of_effects accepted.flow determined walk] at followed
      rw [← Except.ok.inj followed] at ends
      exact ⟨final, solved, listed, pathwise.mpr ⟨labels, walk, ends⟩⟩
  · intro source atSource there set other included carried missing
    have reachedSource : body.Reachable source :=
      (Flow.solveForward_isSome_iff _ (initTransfer effects) accepted.flow source).mp
        ⟨atSource, there⟩
    rcases exists_eventsAt accepted.flow determined reachedSource with ⟨events, asked, transferred⟩
    rcases eventsAt_eq_ok asked with ⟨instr, here, asked⟩
    rw [transferred] at missing ⊢
    refine contains_events_of_contains found here asked ?_ listed carried missing
    intro target writes owner isOwner isTracked
    exact (admitted source reachedSource instr here).owner_present distinct there included writes
      isOwner isTracked

/-- A body that moves a field of its parameter on one of two ways and writes the field
again where they meet. -/
def refilledField : Body :=
  { name := "refilled"
    program := some boxProgram
    locals := [
      { name := "out", kind := .result, type := .int },
      { name := "x", kind := .parameter, type := .struct "Two" [] },
      { name := "flag", kind := .parameter, type := .bool },
      { name := "b", kind := .parameter, type := .struct "Box" [] },
      { name := "y", type := .struct "Box" [] }]
    code := [
      { instr := some (.branch 2 1 2) },
      { instr := some (.assign (.ofLocal 4) (.use ((Place.ofLocal 1).field 0)) 2) },
      { instr := some (.assign ((Place.ofLocal 1).field 0) (.use (.ofLocal 3)) 3) },
      { instr := some (.assign (.ofLocal 0) (.use (((Place.ofLocal 1).field 0).field 0)) 4) },
      { instr := some .ret }] }

/-- Where the ways meet, the field is missing at the end of one of them.  Behind the
write it is missing on no way. -/
theorem refilledField_followed_paths :
    ∃ analysis, refilledField.analyze = .ok analysis ∧
      analysis.firstViolation .initialization = .ok none ∧
      (∃ labels set, Walk refilledField.Edge refilledField.entry.toNat labels 2 ∧
        refilledField.missingAfter analysis.uninitialized.tracked labels = .ok set ∧
        set.contains (placeNumber analysis.uninitialized.tracked ((Place.ofLocal 1).field 0)) =
          true) ∧
      ¬ ∃ labels set, Walk refilledField.Edge refilledField.entry.toNat labels 3 ∧
        refilledField.missingAfter analysis.uninitialized.tracked labels = .ok set ∧
        set.contains (placeNumber analysis.uninitialized.tracked ((Place.ofLocal 1).field 0)) =
          true := by
  have evaluated : refilledField.acceptedWith (fun report =>
      let uninitialized := report.analysis.uninitialized
      uninitialized.tracked.contains ((Place.ofLocal 1).field 0) &&
        (uninitialized.isUninit 2 ((Place.ofLocal 1).field 0) &&
          !uninitialized.isUninit 3 ((Place.ofLocal 1).field 0))) = true := by
    decide +kernel
  rcases exists_report_of_acceptedWith evaluated with ⟨report, reported, clean, found⟩
  rw [Bool.and_eq_true, Bool.and_eq_true, List.contains_iff_mem, Bool.not_eq_true'] at found
  rcases found with ⟨isTracked, missing, present⟩
  rcases silent_of_report reported clean with ⟨analyzed, silent⟩
  have meeting : Walk refilledField.Edge refilledField.entry.toNat [0] 2 :=
    .next .here ⟨_, rfl, by decide⟩
  have behind : Walk refilledField.Edge refilledField.entry.toNat [0, 2] 3 :=
    .next meeting ⟨_, rfl, by decide⟩
  have exact := isUninit_iff_followed_path analyzed (silent _)
  refine ⟨_, analyzed, silent _, (exact 2 ⟨_, meeting⟩ _ isTracked).mp missing, ?_⟩
  intro path
  have reportedAgain := (exact 3 ⟨_, behind⟩ _ isTracked).mpr path
  rw [present] at reportedAgain
  exact absurd reportedAgain Bool.false_ne_true

end Body
end BorrowChecker
