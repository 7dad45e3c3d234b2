import BorrowChecker.Proofs.PlaceIndex

namespace BorrowChecker

/-!
Questions about places that are not tracked.

Whether a place is fully initialized can be asked of any place.  The answer depends on
the uninitialized tracked places within it.  A place that is not tracked has none,
because whatever a tracked place is reached through is tracked too.  So it always
passes for fully initialized, even if nothing is left of the local it belongs to.  What
is known about such a place is known about the innermost tracked place around it.
-/

theorem Uninitialized.notFullyInit_of_isUninit {analysis : Uninitialized} {label : Nat}
    {place : Place} (missing : analysis.isUninit label place = true) :
    analysis.notFullyInit label place = true :=
  List.any_eq_true.mpr ⟨place, List.contains_iff_mem.mp missing, place.isWithin_refl⟩

namespace Body

variable {body : Body} {flow : Flow} {analysis : Uninitialized} {label : Nat} {place : Place}

/-- Only tracked places are ever reported. -/
theorem tracks_of_notFullyInit (computed : body.uninitialized flow = .ok analysis)
    (reported : analysis.notFullyInit label place = true) : body.Tracks place := by
  have found := trackedPlaces_of_uninitialized computed
  rcases (Uninitialized.notFullyInit_iff (nodup_trackedPlaces found) label place).mp reported with
    ⟨_, _, part, listed, inside, _⟩
  exact (mem_tracked_iff_tracks found place).mp (mem_tracked_of_part found listed inside)

/-- Around every typed place there is an innermost tracked one, of the same local. -/
theorem exists_innermost_of_typed (found : body.trackedPlaces = .ok analysis.tracked)
    (typed : ∃ type, body.typeOf place = .ok type) :
    ∃ outer, Innermost analysis.tracked place outer ∧ outer.root = place.root := by
  rcases root_of_typed typed with ⟨position, below, isRoot⟩
  have rooted : .ofLocal place.root ∈ analysis.tracked := isRoot ▸ ofLocal_mem_tracked found below
  rcases Innermost.exists_of_root rooted with ⟨outer, innermost⟩
  exact ⟨outer, innermost, ((Place.isWithin_iff place outer).mp innermost.inside).1.symm⟩

/-- A place that is not tracked is never reported.  If nothing is left of a local, then
of its typed places exactly the tracked ones are reported as not fully initialized, and
among these the innermost around each place. -/
theorem notFullyInit_of_lost_local (valid : body.IsValid) (typed : body.PlacesTyped) :
    ∃ flow, body.flow = .ok flow ∧
      ((∃ analysis, body.uninitialized flow = .ok analysis) ↔ body.MovesKnown) ∧
      ∀ analysis, body.uninitialized flow = .ok analysis →
        (∀ label place, ¬ body.Tracks place → analysis.notFullyInit label place = false) ∧
        ∀ label, body.Reachable label → ∀ root,
          (∀ part ∈ analysis.tracked, part.root = root → analysis.isUninit label part = true) →
          ∀ place, place.root = root → (∃ type, body.typeOf place = .ok type) →
            (analysis.notFullyInit label place = true ↔ body.Tracks place) ∧
            ∃ outer, Innermost analysis.tracked place outer ∧
              analysis.notFullyInit label outer = true := by
  rcases valid.inOrder with ⟨program, inOrder⟩
  rcases inOrder.exists_flow with ⟨flow, hasFlow⟩
  refine ⟨flow, hasFlow, exists_uninitialized_iff valid typed hasFlow, ?_⟩
  intro analysis computed
  have found := trackedPlaces_of_uninitialized computed
  constructor
  · intro label place untracked
    rw [Bool.eq_false_iff]
    exact fun reported => untracked (tracks_of_notFullyInit computed reported)
  · intro label _ root lost place isRoot placeTyped
    have reported : ∀ part ∈ analysis.tracked, part.root = root →
        analysis.notFullyInit label part = true :=
      fun part listed ofLocal => Uninitialized.notFullyInit_of_isUninit (lost part listed ofLocal)
    constructor
    · refine ⟨tracks_of_notFullyInit computed, fun tracks => ?_⟩
      exact reported place ((mem_tracked_iff_tracks found place).mpr tracks) isRoot
    · rcases exists_innermost_of_typed found placeTyped with ⟨outer, innermost, sameRoot⟩
      exact ⟨outer, innermost, reported outer innermost.listed (sameRoot.trans isRoot)⟩

/-- A body that reads one field of a structure and ends its storage.  The other field, a
structure itself, is tracked next to it, but not the fields of that one. -/
def partlyMentioned : Body :=
  { name := "partly"
    program := some (.ofDeclarations
      [{ name := "Pair"
         fields := [{ name := "first", type := .int }, { name := "second", type := .int }] },
       { name := "Outer"
         fields := [{ name := "pair", type := .struct "Pair" [] },
                    { name := "tail", type := .int }] }] [])
    locals := [
      { name := "out", kind := .result, type := .int },
      { name := "x", kind := .parameter, type := .struct "Outer" [] }]
    code := [
      { instr := some (.assign (.ofLocal 0) (.use ((Place.ofLocal 1).field 1)) 1) },
      { instr := some (.deinit 1 2) },
      { instr := some .ret }] }

/-- On return nothing is left of the structure. -/
theorem partlyMentioned_lost :
    partlyMentioned.Reachable 2 ∧
      ∃ flow analysis, partlyMentioned.flow = .ok flow ∧
        partlyMentioned.uninitialized flow = .ok analysis ∧
        ∀ part ∈ analysis.tracked, part.root = 1 → analysis.isUninit 2 part = true := by
  refine ⟨⟨[0, 1], .next (.next .here ⟨_, rfl, by decide⟩) ⟨_, rfl, by decide⟩⟩, ?_⟩
  have evaluated : (do
      let analysis ← partlyMentioned.uninitialized (← partlyMentioned.flow)
      return analysis.tracked.all fun part =>
        part.root != 1 || analysis.isUninit 2 part).toOption = some true := by
    decide +kernel
  rcases bind_eq_ok.mp (toOption_eq_some.mp evaluated) with ⟨flow, hasFlow, evaluated⟩
  rcases bind_eq_ok.mp evaluated with ⟨analysis, computed, result⟩
  refine ⟨flow, analysis, hasFlow, computed, fun part listed isRoot => ?_⟩
  have missing := List.all_eq_true.mp (Except.ok.inj result) part listed
  simpa [isRoot] using missing

/-- The pair is reported although the code does not mention it, and so is the innermost
tracked place around its first field. -/
theorem partlyMentioned_pair_reported :
    ∃ flow analysis, partlyMentioned.flow = .ok flow ∧
      partlyMentioned.uninitialized flow = .ok analysis ∧
      analysis.notFullyInit 2 ((Place.ofLocal 1).field 0) = true ∧
      ∃ outer, Innermost analysis.tracked (((Place.ofLocal 1).field 0).field 0) outer ∧
        analysis.notFullyInit 2 outer = true := by
  have valid : partlyMentioned.IsValid := rfl
  have typed : partlyMentioned.PlacesTyped := placesTyped_of_test (by decide +kernel)
  rcases notFullyInit_of_lost_local valid typed with ⟨flow, hasFlow, _, answers⟩
  rcases partlyMentioned_lost with ⟨reached, sameFlow, analysis, alsoFlow, computed, lost⟩
  rcases Except.ok.inj (alsoFlow.symm.trans hasFlow) with rfl
  have mentions : partlyMentioned.InCode ((Place.ofLocal 1).field 1) :=
    ⟨0, .assign (.ofLocal 0) (.use ((Place.ofLocal 1).field 1)) 1, rfl, by decide⟩
  have tracks : partlyMentioned.Tracks ((Place.ofLocal 1).field (0 : Nat)) :=
    .sibling (.mentioned mentions) rfl (by decide)
  have ofPair := (answers analysis computed).2 2 reached 1 lost ((Place.ofLocal 1).field 0) rfl
    ⟨_, rfl⟩
  have ofPart := (answers analysis computed).2 2 reached 1 lost
    (((Place.ofLocal 1).field 0).field 0) rfl ⟨_, rfl⟩
  exact ⟨sameFlow, analysis, hasFlow, computed, ofPair.1.mpr tracks, ofPart.2⟩

/-- The first field of the pair has a type and nothing is left of the local, yet the
field passes for fully initialized. -/
theorem partlyMentioned_part_unreported :
    partlyMentioned.IsValid ∧ partlyMentioned.PlacesTyped ∧ partlyMentioned.Reachable 2 ∧
      ∃ flow analysis, partlyMentioned.flow = .ok flow ∧
        partlyMentioned.uninitialized flow = .ok analysis ∧
        (∀ part ∈ analysis.tracked, part.root = 1 → analysis.isUninit 2 part = true) ∧
        (∃ type, partlyMentioned.typeOf (((Place.ofLocal 1).field 0).field 0) = .ok type) ∧
        analysis.notFullyInit 2 (((Place.ofLocal 1).field 0).field 0) = false := by
  have valid : partlyMentioned.IsValid := rfl
  have typed : partlyMentioned.PlacesTyped := placesTyped_of_test (by decide +kernel)
  rcases partlyMentioned_lost with ⟨reached, flow, analysis, hasFlow, computed, lost⟩
  refine ⟨valid, typed, reached, flow, analysis, hasFlow, computed, lost, ⟨_, rfl⟩, ?_⟩
  have found := trackedPlaces_of_uninitialized computed
  have evaluated : partlyMentioned.trackedPlaces = .ok
      [.ofLocal 0, .ofLocal 1, (Place.ofLocal 1).field 1, (Place.ofLocal 1).field 0] := by
    decide +kernel
  rw [Bool.eq_false_iff]
  intro reported
  have listed := (mem_tracked_iff_tracks found _).mpr (tracks_of_notFullyInit computed reported)
  rw [Except.ok.inj (found.symm.trans evaluated)] at listed
  exact absurd listed (by decide)

end Body
end BorrowChecker
