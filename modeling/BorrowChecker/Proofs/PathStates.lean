import BorrowChecker.Proofs.InitializationPaths

namespace BorrowChecker

/-!
Uninitialized places along a single path.

The analysis joins what arrives at a label on different ways.  Here the
instructions of one way are followed by themselves, starting from the entry and
with the same effects.  Effects are monotone, so the places that are missing on a
path are among those that the analysis reports at its end.  Nothing is said in the
other direction.
-/

/-! ## Effects are monotone -/

namespace Effect

variable {bound : Nat}

theorem settle_of_part {owner : NumberedOwner} {outer : List NumberedOwner}
    {set : IndexSet bound} (found : owner.parts.any set.contains = true) :
    settle set (owner :: outer) = set := by
  rw [settle, if_pos found]

theorem settle_of_no_part {owner : NumberedOwner} {outer : List NumberedOwner}
    {set : IndexSet bound} (none : owner.parts.any set.contains = false) :
    settle set (owner :: outer) = settle (set.erase owner.place) outer := by
  rw [settle, if_neg (Bool.eq_false_iff.mp none)]

theorem settle_within (owners : List NumberedOwner) (set : IndexSet bound) :
    (settle set owners).Within set := by
  induction owners generalizing set with
  | nil => exact .refl set
  | cons owner outer inductionHypothesis =>
      cases stops : owner.parts.any set.contains with
      | true =>
          rw [settle_of_part stops]
          exact .refl set
      | false =>
          rw [settle_of_no_part stops]
          apply (inductionHypothesis (set.erase owner.place)).trans
          intro index member
          rw [IndexSet.contains_erase, Bool.and_eq_true] at member
          exact member.1

private theorem settle_mono (owners : List NumberedOwner) {less more : IndexSet bound}
    (smaller : less.Within more) : (settle less owners).Within (settle more owners) := by
  induction owners generalizing less more with
  | nil => exact smaller
  | cons owner outer inductionHypothesis =>
      cases stops : owner.parts.any more.contains with
      | true =>
          rw [settle_of_part stops]
          exact (settle_within _ less).trans smaller
      | false =>
          have alsoNone : owner.parts.any less.contains = false := by
            rw [List.any_eq_false] at stops ⊢
            exact fun part isPart member => stops part isPart (smaller part member)
          rw [settle_of_no_part stops, settle_of_no_part alsoNone]
          apply inductionHypothesis
          intro index member
          rw [IndexSet.contains_erase, Bool.and_eq_true] at member ⊢
          exact ⟨smaller index member.1, member.2⟩

private theorem apply_mono (effect : Effect bound) {less more : IndexSet bound}
    (smaller : less.Within more) : (apply less effect).Within (apply more effect) := by
  cases effect with
  | deinit region =>
      apply IndexSet.Within.union
      · exact smaller.trans (.union_left more region)
      · exact .union_right more region
  | init region owners =>
      apply settle_mono
      intro index member
      rw [IndexSet.contains_diff, Bool.and_eq_true] at member ⊢
      exact ⟨smaller index member.1, member.2⟩

private theorem foldl_apply_mono (effects : List (Effect bound)) {less more : IndexSet bound}
    (smaller : less.Within more) :
    (effects.foldl apply less).Within (effects.foldl apply more) := by
  induction effects generalizing less more with
  | nil => exact smaller
  | cons first rest inductionHypothesis => exact inductionHypothesis (apply_mono first smaller)

end Effect

/-- After several losses the parts of what was lost are missing, too. -/
theorem contains_foldl_deinit {tracked : List Place} {part : Place} (listed : part ∈ tracked)
    (places : List Place) (set : IndexSet tracked.length) :
    (((places.map Event.deinit).map (Event.effect tracked)).foldl Effect.apply set).contains
        (placeNumber tracked part) =
      (set.contains (placeNumber tracked part) || places.any fun place => part.isWithin place) := by
  induction places generalizing set with
  | nil => simp
  | cons first rest inductionHypothesis =>
      rw [List.map_cons, List.map_cons, List.foldl_cons, inductionHypothesis, List.any_cons,
        Event.effect, Effect.apply, IndexSet.contains_union, contains_regionOf listed,
        Bool.or_assoc]

/-! ## What an instruction takes away -/

namespace Body

def losses (body : Body) (instr : Instr) : List Place :=
  instr.movable.filter body.moves ++ instr.surrendered.map Place.ofLocal

section Losses

variable {body : Body} {instr : Instr} {events : List Event}

theorem mem_losses_iff {place : Place} :
    place ∈ body.losses instr ↔ (place ∈ instr.movable ∧ body.moves place = true) ∨
      ∃ position ∈ instr.surrendered, Place.ofLocal position = place := by
  simp [losses]

/-- The events of an instruction are its losses, then the write. -/
theorem events_eq_losses (asked : body.events instr = .ok events) :
    ∃ written, instr.target?.toList.mapM body.initEvent = .ok written ∧
      events = (body.losses instr).map .deinit ++ written := by
  rw [events_eq] at asked
  rcases bind_eq_ok.mp asked with ⟨moved, reads, asked⟩
  rcases bind_eq_ok.mp asked with ⟨written, writes, result⟩
  refine ⟨written, writes, ?_⟩
  rw [← Except.ok.inj result, readEvents_eq_ok reads]
  simp [losses, Function.comp_def]

theorem events_of_no_target (asked : body.events instr = .ok events)
    (writes : instr.target? = none) : events = (body.losses instr).map .deinit := by
  rcases events_eq_losses asked with ⟨written, initialized, rfl⟩
  rw [writes] at initialized
  have none : written = [] := (Except.ok.inj initialized).symm
  rw [none, List.append_nil]

theorem events_of_target (asked : body.events instr = .ok events) {target : Place}
    (writes : instr.target? = some target) :
    ∃ owners, body.ownersAlong target.lineage = .ok owners ∧
      events = (body.losses instr).map .deinit ++ [.init target owners] := by
  rcases events_eq_losses asked with ⟨written, initialized, rfl⟩
  rw [writes] at initialized
  rcases bind_eq_ok.mp initialized with ⟨event, initialized, single⟩
  rcases bind_eq_ok.mp initialized with ⟨owners, along, isEvent⟩
  refine ⟨owners, along, ?_⟩
  rw [← Except.ok.inj single, ← Except.ok.inj isEvent]
  rfl

theorem events_of_eventsAt {label : Nat} (asked : body.eventsAt label = .ok events)
    (here : body.instr? label = some instr) : body.events instr = .ok events := by
  rwa [eventsAt, here] at asked

theorem deinit_mem_events_iff (asked : body.events instr = .ok events) (place : Place) :
    Event.deinit place ∈ events ↔ place ∈ body.losses instr := by
  cases writes : instr.target? with
  | none =>
      rw [events_of_no_target asked writes]
      simp
  | some target =>
      rcases events_of_target asked writes with ⟨owners, _, rfl⟩
      simp

end Losses

/-! ## Following a path -/

/-- What the events at a label make of the uninitialized places. -/
def transferAt (body : Body) (tracked : List Place) (set : IndexSet tracked.length)
    (label : Nat) : Except Fault (IndexSet tracked.length) := do
  return ((← body.eventsAt label).map (Event.effect tracked)).foldl Effect.apply set

/-- The uninitialized places after the instructions at the given labels were
executed one after another from the entry. -/
def missingAfter (body : Body) (tracked : List Place) (labels : List Nat) :
    Except Fault (IndexSet tracked.length) :=
  labels.foldlM (body.transferAt tracked) (body.entryState tracked)

variable {body : Body} {flow : Flow} {tracked : List Place}
  {effects : List (Nat × List (Effect tracked.length))}

theorem transferAt_eq_ok {set after : IndexSet tracked.length} {label : Nat} :
    body.transferAt tracked set label = .ok after ↔
      ∃ events, body.eventsAt label = .ok events ∧
        after = (events.map (Event.effect tracked)).foldl Effect.apply set := by
  unfold transferAt
  rw [bind_eq_ok]
  simp [pure, Except.pure, eq_comm]

theorem missingAfter_append (labels : List Nat) (label : Nat) {set : IndexSet tracked.length}
    (before : body.missingAfter tracked labels = .ok set) :
    body.missingAfter tracked (labels ++ [label]) = body.transferAt tracked set label := by
  unfold missingAfter at before ⊢
  rw [List.foldlM_append, before]
  change List.foldlM (body.transferAt tracked) set [label] = _
  rw [List.foldlM_cons]
  exact bind_pure _

/-- The events at a reachable label are known, and their effects are what the
analysis applies. -/
theorem exists_eventsAt (hasFlow : body.flow = .ok flow)
    (determined : body.effects flow tracked = .ok effects) {label : Nat}
    (reached : body.Reachable label) :
    ∃ events, body.eventsAt label = .ok events ∧ ∀ set,
      initTransfer effects label set =
        (events.map (Event.effect tracked)).foldl Effect.apply set := by
  rcases lookup_effects determined label with ⟨unlisted, _⟩ | ⟨events, asked, recorded⟩
  · exact absurd ((Flow.mem_discovery_iff hasFlow label).mpr reached) unlisted
  · exact ⟨events, asked, fun set => by simp [initTransfer, recorded]⟩

private theorem transferAt_of_effects (hasFlow : body.flow = .ok flow)
    (determined : body.effects flow tracked = .ok effects) {label : Nat}
    (reached : body.Reachable label) (set : IndexSet tracked.length) :
    body.transferAt tracked set label = .ok (initTransfer effects label set) := by
  rcases exists_eventsAt hasFlow determined reached with ⟨events, asked, transferred⟩
  exact transferAt_eq_ok.mpr ⟨events, asked, transferred set⟩

theorem initTransfer_mono (label : Nat) {less more : IndexSet tracked.length}
    (smaller : less.Within more) :
    (initTransfer effects label less).Within (initTransfer effects label more) :=
  Effect.foldl_apply_mono _ smaller

theorem missingAfter_of_effects (hasFlow : body.flow = .ok flow)
    (determined : body.effects flow tracked = .ok effects) {labels : List Nat} {label : Nat}
    (walk : Walk body.Edge body.entry.toNat labels label) :
    body.missingAfter tracked labels =
      .ok (labels.foldl (fun set label => initTransfer effects label set)
        (body.entryState tracked)) := by
  induction walk with
  | here => rfl
  | @next labels source target before _ inductionHypothesis =>
      rw [missingAfter_append labels source inductionHypothesis,
        transferAt_of_effects hasFlow determined ⟨labels, before⟩, List.foldl_append]
      rfl

/-- Every path can be followed, and what is missing at its end is reported
there. -/
theorem exists_missingAfter {analysis : Uninitialized} (hasFlow : body.flow = .ok flow)
    (computed : body.uninitialized flow = .ok analysis) {labels : List Nat} {label : Nat}
    (walk : Walk body.Edge body.entry.toNat labels label) :
    ∃ set final, body.missingAfter analysis.tracked labels = .ok set ∧
      analysis.states.at? label = some final ∧ set.Within final := by
  rcases uninitialized_eq_ok computed with ⟨tracked, effects, _, determined, rfl⟩
  rcases Flow.foldl_within_solveForward (body.entryState tracked) (initTransfer effects)
    (fun label _ _ smaller => initTransfer_mono label smaller) hasFlow walk with
    ⟨final, here, included⟩
  exact ⟨_, final, missingAfter_of_effects hasFlow determined walk, here, included⟩

end Body

/-! ## Fully initialized places -/

/-- Whether no tracked part of a place is among the uninitialized ones. -/
def fullyInitialized (tracked : List Place) (set : IndexSet tracked.length) (place : Place) :
    Bool :=
  tracked.all fun part => !(part.isWithin place && set.contains (placeNumber tracked part))

theorem fullyInitialized_iff {tracked : List Place} {set : IndexSet tracked.length}
    {place : Place} :
    fullyInitialized tracked set place = true ↔ ∀ part ∈ tracked, part.isWithin place = true →
      set.contains (placeNumber tracked part) = false := by
  simp only [fullyInitialized, List.all_eq_true, Bool.not_eq_true', Bool.and_eq_false_imp]

theorem fullyInitialized_of_within {analysis : Uninitialized} (distinct : analysis.tracked.Nodup)
    {label : Nat} {set final : IndexSet analysis.tracked.length}
    (there : analysis.states.at? label = some final) (included : set.Within final) {place : Place}
    (whole : analysis.notFullyInit label place = false) :
    fullyInitialized analysis.tracked set place = true := by
  rw [fullyInitialized_iff]
  intro part listed inside
  apply included.absent
  rw [Bool.eq_false_iff] at whole ⊢
  intro missing
  apply whole
  exact (Uninitialized.notFullyInit_iff distinct label place).mpr
    ⟨final, there, part, listed, inside, missing⟩

end BorrowChecker
