import BorrowChecker.Proofs.Dataflow
import BorrowChecker.Proofs.UninitializedParts

namespace BorrowChecker

/-!
Initialization along paths.

On a single path a place without tracked fields is initialized or not, depending
on the last change that affected it.  The analysis joins the paths that meet at a
label, and climbs from written fields to their structures.  Neither loses nor
adds anything for the question whether a place is fully initialized: it is not
exactly if, on some path from the entry, one of its parts is missing.
-/

/-! ## Changes -/

/-- What an instruction does to the initialization of a place and all its
parts. -/
inductive Change where
  | lost (place : Place)
  | gained (place : Place)
  deriving DecidableEq, Repr

namespace Change

def place : Change → Place
  | lost place => place
  | gained place => place

def isLoss : Change → Bool
  | lost _ => true
  | gained _ => false

/-- A change affects the parts of its place. -/
def affects (part : Place) (change : Change) : Bool := part.isWithin change.place

/-- Whether a part is missing after a change, given whether it was missing
before. -/
def act (part : Place) (missing : Bool) (change : Change) : Bool :=
  if change.affects part then change.isLoss else missing

/-- After several changes the last one that affects a part decides. -/
theorem foldl_act (part : Place) (changes : List Change) (missing : Bool) :
    changes.foldl (act part) missing =
      ((changes.filter (affects part)).getLast?.map isLoss).getD missing := by
  induction changes generalizing missing with
  | nil => rfl
  | cons first rest inductionHypothesis =>
      rw [List.foldl_cons, inductionHypothesis, List.filter_cons]
      cases affected : affects part first with
      | false => simp [act, affected]
      | true =>
          rw [if_pos rfl, List.getLast?_cons]
          cases (rest.filter (affects part)).getLast? <;> simp [act, affected]

private theorem act_mono (part : Place) (change : Change) {less more : Bool}
    (smaller : less = true → more = true) (missing : act part less change = true) :
    act part more change = true := by
  unfold act at missing ⊢
  split
  · rename_i affected
    rwa [if_pos affected] at missing
  · rename_i unaffected
    rw [if_neg unaffected] at missing
    exact smaller missing

private theorem foldl_act_mono (part : Place) (changes : List Change) {less more : Bool}
    (smaller : less = true → more = true) (missing : changes.foldl (act part) less = true) :
    changes.foldl (act part) more = true := by
  induction changes generalizing less more with
  | nil => exact smaller missing
  | cons first rest inductionHypothesis =>
      exact inductionHypothesis (act_mono part first smaller) missing

end Change

namespace Instr

/-- The operands that an instruction moves unless they are copyable.  Borrowed
places are not among them. -/
def movable : Instr → List Place
  | assign _ source _ => if source.isBorrow then [] else source.operands
  | call _ arguments _ _ => arguments.map Place.ofLocal
  | deinit _ _ | goto _ | branch _ _ _ | ret => []

/-- The locals that an instruction gives up in any case: one whose storage ends,
or the condition of a branch. -/
def surrendered : Instr → List Int
  | deinit victim _ => [victim]
  | branch condition _ _ => [condition]
  | assign _ _ _ | goto _ | call _ _ _ _ | ret => []

end Instr

namespace Body

def moves (body : Body) (place : Place) : Bool :=
  (body.isCopyable place).toOption == some false

/-- The changes an instruction makes, in order: it loses what it moves or gives
up, and gains what it writes. -/
def changes (body : Body) (instr : Instr) : List Change :=
  (instr.movable.filter body.moves ++ instr.surrendered.map Place.ofLocal).map .lost ++
    instr.target?.toList.map .gained

def changesAt (body : Body) (label : Nat) : List Change :=
  ((body.instr? label).map body.changes).getD []

/-- The last change on a path that affects a part. -/
def lastChange (body : Body) (labels : List Nat) (part : Place) : Option Change :=
  ((labels.flatMap body.changesAt).filter (Change.affects part)).getLast?

/-- Every place that a reachable instruction may move is known to be copyable or
not. -/
def MovesKnown (body : Body) : Prop :=
  ∀ label instr, body.Reachable label → body.instr? label = some instr →
    ∀ place ∈ instr.movable, ∃ copyable, body.isCopyable place = .ok copyable

end Body

/-! ## Events as changes -/

def Event.change : Event → Change
  | deinit place => .lost place
  | init place _ => .gained place

/-- The owners of an event are those of the place that is written. -/
def Event.Anchored (tracked : List Place) : Event → Prop
  | deinit _ => True
  | init place owners => OwnerChain tracked place owners

namespace Body

variable {body : Body} {tracked : List Place}

private theorem moveEvents_eq_ok {place : Place} {events : List Event}
    (asked : body.moveEvents place = .ok events) :
    events = if body.moves place then [.deinit place] else [] := by
  rcases bind_eq_ok.mp asked with ⟨copyable, answered, result⟩
  rw [← Except.ok.inj result, moves, answered]
  cases copyable <;> rfl

theorem readEvents_eq_ok {places : List Place} {events : List Event}
    (asked : body.readEvents places = .ok events) :
    events = (places.filter body.moves).map .deinit := by
  rcases bind_eq_ok.mp asked with ⟨perPlace, mapped, result⟩
  rw [← Except.ok.inj result]
  clear asked result
  induction places generalizing perPlace with
  | nil =>
      have none : perPlace = [] := (Except.ok.inj mapped).symm
      rw [none]
      rfl
  | cons first rest inductionHypothesis =>
      rw [List.mapM_cons] at mapped
      rcases bind_eq_ok.mp mapped with ⟨ofFirst, head, mapped⟩
      rcases bind_eq_ok.mp mapped with ⟨ofRest, tail, whole⟩
      rw [← Except.ok.inj whole, List.flatten_cons, moveEvents_eq_ok head,
        inductionHypothesis ofRest tail, List.filter_cons]
      cases body.moves first <;> rfl

/-- All instructions make their events in the same order: what they move, what they
give up, and what they write. -/
theorem events_eq (body : Body) (instr : Instr) :
    body.events instr = do
      let moved ← body.readEvents instr.movable
      let written ← instr.target?.toList.mapM body.initEvent
      return moved ++ instr.surrendered.map (fun position => .deinit (.ofLocal position)) ++
        written := by
  cases instr with
  | assign target source next =>
      cases borrowing : source.isBorrow <;>
        simp [events, Instr.movable, Instr.surrendered, Instr.target?, borrowing, readEvents]
  | call function arguments target next =>
      simp [events, Instr.movable, Instr.surrendered, Instr.target?]
  | deinit | goto | branch | ret => rfl

/-- The owners of a typed place can be determined. -/
theorem exists_ownersAlong {place : Place} (typed : ∃ type, body.typeOf place = .ok type) :
    ∃ owners, body.ownersAlong place.lineage = .ok owners := by
  induction place using Place.extend_induction with
  | atLocal root => exact ⟨[], rfl⟩
  | further place step inductionHypothesis =>
      rw [Place.lineage_extend]
      rcases exists_owner? typed with ⟨owner, asked⟩
      cases owner with
      | none => exact ⟨[], bind_eq_ok.mpr ⟨none, asked, rfl⟩⟩
      | some owner =>
          rcases typed with ⟨type, typed⟩
          rcases typeOf_extend typed with ⟨inner, innerTyped, _⟩
          rcases inductionHypothesis ⟨inner, innerTyped⟩ with ⟨rest, along⟩
          refine ⟨owner :: rest, bind_eq_ok.mpr ⟨some owner, asked, ?_⟩⟩
          exact bind_eq_ok.mpr ⟨rest, along, rfl⟩

/-- If the places of an instruction have types, its events are known as soon as it
is known which operands are moved. -/
theorem exists_events_iff {instr : Instr}
    (typed : ∀ place ∈ instr.places, ∃ type, body.typeOf place = .ok type) :
    (∃ events, body.events instr = .ok events) ↔
      ∀ place ∈ instr.movable, ∃ copyable, body.isCopyable place = .ok copyable := by
  rw [events_eq]
  constructor
  · rintro ⟨events, asked⟩ place isMovable
    rcases bind_eq_ok.mp asked with ⟨moved, reads, _⟩
    rcases bind_eq_ok.mp reads with ⟨perPlace, mapped, _⟩
    rcases exists_of_mapM mapped isMovable with ⟨_, _, visited⟩
    rcases bind_eq_ok.mp visited with ⟨copyable, answered, _⟩
    exact ⟨copyable, answered⟩
  · intro known
    have perPlace : ∀ place ∈ instr.movable, ∃ events, body.moveEvents place = .ok events := by
      intro place isMovable
      rcases known place isMovable with ⟨copyable, answered⟩
      exact ⟨_, bind_eq_ok.mpr ⟨copyable, answered, rfl⟩⟩
    have perTarget : ∀ target ∈ instr.target?.toList,
        ∃ event, body.initEvent target = .ok event := by
      intro target writes
      rcases exists_ownersAlong (typed target (List.mem_append_right _ writes)) with ⟨owners, along⟩
      exact ⟨_, bind_eq_ok.mpr ⟨owners, along, rfl⟩⟩
    rcases mapM_ok_of_forall perPlace with ⟨moved, mapped⟩
    rcases mapM_ok_of_forall perTarget with ⟨written, mappedTarget⟩
    exact ⟨_, bind_eq_ok.mpr ⟨_, bind_eq_ok.mpr ⟨moved, mapped, rfl⟩,
      bind_eq_ok.mpr ⟨written, mappedTarget, rfl⟩⟩⟩

/-- Events make the changes of their instruction, and their owners are those of the
written place. -/
theorem changes_of_events (found : body.trackedPlaces = .ok tracked) {label : Nat}
    {instr : Instr} (here : body.instr? label = some instr) {events : List Event}
    (asked : body.events instr = .ok events) :
    events.map Event.change = body.changes instr ∧ ∀ event ∈ events, event.Anchored tracked := by
  rw [events_eq] at asked
  rcases bind_eq_ok.mp asked with ⟨moved, reads, asked⟩
  rcases bind_eq_ok.mp asked with ⟨written, writes, result⟩
  rw [← Except.ok.inj result, readEvents_eq_ok reads]
  cases target : instr.target? with
  | none =>
      rw [target] at writes
      have none : written = [] := (Except.ok.inj writes).symm
      constructor
      · simp [none, changes, target, Event.change, Function.comp_def]
      · intro event listed
        simp only [none, List.append_nil, List.mem_append, List.mem_map] at listed
        rcases listed with ⟨_, _, rfl⟩ | ⟨_, _, rfl⟩ <;> exact trivial
  | some place =>
      rw [target] at writes
      rcases bind_eq_ok.mp writes with ⟨event, initialized, single⟩
      rcases bind_eq_ok.mp initialized with ⟨owners, along, isEvent⟩
      have only : written = [.init place owners] := by
        rw [← Except.ok.inj single, ← Except.ok.inj isEvent]
        rfl
      constructor
      · simp [only, changes, target, Event.change, Function.comp_def]
      · intro event listed
        simp only [only, List.mem_append, List.mem_map, List.mem_singleton] at listed
        rcases listed with (⟨_, _, rfl⟩ | ⟨_, _, rfl⟩) | rfl
        · exact trivial
        · exact trivial
        · exact ownerChain_of_ownersAlong found (inCode_of_target here target)
            ((Place.mem_lineage_iff place place).mpr place.isWithin_refl) along

end Body

/-! ## What events do to sets of places -/

namespace Event

variable {tracked : List Place}

/-- An event acts on a place without tracked fields like its change. -/
theorem contains_apply {event : Event} (anchored : event.Anchored tracked) {part : Place}
    (listed : part ∈ tracked) (noFields : ∀ index, part.field index ∉ tracked)
    (set : IndexSet tracked.length) :
    (Effect.apply set (event.effect tracked)).contains (placeNumber tracked part) =
      event.change.act part (set.contains (placeNumber tracked part)) := by
  cases event with
  | deinit place =>
      simp only [effect, Effect.apply, change, Change.act, Change.affects, Change.place,
        Change.isLoss, IndexSet.contains_union, contains_regionOf listed]
      by_cases inside : part.isWithin place = true <;> simp [inside]
  | init place owners =>
      have settled := Effect.contains_settle anchored listed noFields
        (set.diff (regionOf tracked place))
      simp only [change, Change.act, Change.affects, Change.place, Change.isLoss]
      refine settled.trans ?_
      rw [IndexSet.contains_diff, contains_regionOf listed]
      by_cases inside : part.isWithin place = true <;> simp [inside]

private theorem contains_foldl_apply {events : List Event}
    (anchored : ∀ event ∈ events, event.Anchored tracked) {part : Place}
    (listed : part ∈ tracked) (noFields : ∀ index, part.field index ∉ tracked)
    (set : IndexSet tracked.length) :
    ((events.map (effect tracked)).foldl Effect.apply set).contains (placeNumber tracked part) =
      (events.map change).foldl (Change.act part)
        (set.contains (placeNumber tracked part)) := by
  induction events generalizing set with
  | nil => rfl
  | cons first rest inductionHypothesis =>
      rcases List.forall_mem_cons.mp anchored with ⟨head, tail⟩
      rw [List.map_cons, List.foldl_cons, inductionHypothesis tail,
        contains_apply head listed noFields]
      rfl

/-- Events keep uninitialized structures with an uninitialized field. -/
theorem descends_foldl_apply {events : List Event}
    (anchored : ∀ event ∈ events, event.Anchored tracked) {set : IndexSet tracked.length}
    (descends : Descends tracked set) :
    Descends tracked ((events.map (effect tracked)).foldl Effect.apply set) := by
  induction events generalizing set with
  | nil => exact descends
  | cons first rest inductionHypothesis =>
      rcases List.forall_mem_cons.mp anchored with ⟨head, tail⟩
      apply inductionHypothesis tail
      cases first with
      | deinit place => exact descends.union (.region place)
      | init place owners => exact descends.write head

end Event

/-! ## The analysis -/

namespace Body

variable {body : Body} {flow : Flow} {tracked : List Place}

theorem contains_entryState {place : Place} (listed : place ∈ tracked) :
    (body.entryState tracked).contains (placeNumber tracked place) = true ↔
      body.kindOf? place.root ≠ some .parameter := by
  have below : placeNumber tracked place < tracked.length := List.idxOf_lt_length_of_mem listed
  unfold entryState kindOf?
  simp only [IndexSet.contains_ofList, below, decide_true, Bool.true_and, List.contains_iff_mem,
    List.mem_filter, List.mem_range, getElem?_placeNumber listed, Option.any_some, true_and]
  cases memberAt body.locals place.root <;> simp

private theorem descends_entryState : Descends tracked (body.entryState tracked) := by
  intro place listed hasFields member
  rcases hasFields with ⟨index, isTracked⟩
  exact ⟨index, isTracked,
    (contains_entryState isTracked).mpr ((contains_entryState listed).mp member)⟩

/-- What the analysis makes of a set at a label, given the effects at reachable
labels. -/
def initTransfer (effects : List (Nat × List (Effect tracked.length))) (label : Nat)
    (set : IndexSet tracked.length) : IndexSet tracked.length :=
  ((effects.lookup label).getD []).foldl Effect.apply set

theorem uninitialized_eq_ok {analysis : Uninitialized}
    (computed : body.uninitialized flow = .ok analysis) :
    ∃ tracked effects, body.trackedPlaces = .ok tracked ∧
      body.effects flow tracked = .ok effects ∧
      analysis = { tracked, states :=
        flow.solveForward (body.entryState tracked) (initTransfer effects) } := by
  rcases bind_eq_ok.mp computed with ⟨tracked, found, computed⟩
  rcases bind_eq_ok.mp computed with ⟨_, _, computed⟩
  rcases bind_eq_ok.mp computed with ⟨effects, determined, result⟩
  exact ⟨tracked, effects, found, determined, (Except.ok.inj result).symm⟩

/-- Beyond the tracked places and the effects, the analysis needs locals only. -/
theorem InOrder.uninitialized_of_effects {program : Program} (inOrder : body.InOrder program)
    (found : body.trackedPlaces = .ok tracked)
    {effects : List (Nat × List (Effect tracked.length))}
    (determined : body.effects flow tracked = .ok effects) :
    body.uninitialized flow = .ok
      ⟨tracked, flow.solveForward (body.entryState tracked) (initTransfer effects)⟩ := by
  rcases inOrder.exists_rootKinds found with ⟨kinds, rooted⟩
  exact bind_eq_ok.mpr ⟨tracked, found, bind_eq_ok.mpr
    ⟨kinds, rooted, bind_eq_ok.mpr ⟨effects, determined, rfl⟩⟩⟩

theorem trackedPlaces_of_uninitialized {analysis : Uninitialized}
    (computed : body.uninitialized flow = .ok analysis) :
    body.trackedPlaces = .ok analysis.tracked := by
  rcases uninitialized_eq_ok computed with ⟨tracked, _, found, _, rfl⟩
  exact found

/-- The effects recorded for a label are those of its events. -/
theorem lookup_effects {labels : List Nat} {effects : List (Nat × List (Effect tracked.length))}
    (determined : labels.mapM (fun label => do
      return (label, (← body.eventsAt label).map (Event.effect tracked))) = .ok effects)
    (label : Nat) :
    (label ∉ labels ∧ effects.lookup label = none) ∨
      ∃ events, body.eventsAt label = .ok events ∧
        effects.lookup label = some (events.map (Event.effect tracked)) := by
  induction labels generalizing effects with
  | nil =>
      left
      rw [← Except.ok.inj determined]
      exact ⟨by simp, rfl⟩
  | cons first rest inductionHypothesis =>
      rw [List.mapM_cons] at determined
      rcases bind_eq_ok.mp determined with ⟨pair, head, determined⟩
      rcases bind_eq_ok.mp head with ⟨events, asked, isPair⟩
      rcases bind_eq_ok.mp determined with ⟨others, tail, whole⟩
      rw [← Except.ok.inj whole, ← Except.ok.inj isPair, List.lookup_cons]
      by_cases same : label = first
      · right
        rw [same]
        exact ⟨events, asked, by simp⟩
      · have different : (label == first) = false := by simpa using same
        rw [different]
        rcases inductionHypothesis tail with ⟨unlisted, absent⟩ | recorded
        · exact .inl ⟨by simp [same, unlisted], absent⟩
        · exact .inr recorded

theorem eventsAt_eq_ok {label : Nat} {events : List Event}
    (asked : body.eventsAt label = .ok events) :
    ∃ instr, body.instr? label = some instr ∧ body.events instr = .ok events := by
  unfold eventsAt at asked
  split at asked
  · rename_i instr here
    exact ⟨instr, here, asked⟩
  · simp at asked

/-- The transfer at any label is the effect of events with proper owners.  At
reachable labels these make the changes of the instruction. -/
theorem exists_events_of_effects (hasFlow : body.flow = .ok flow)
    (found : body.trackedPlaces = .ok tracked)
    {effects : List (Nat × List (Effect tracked.length))}
    (determined : body.effects flow tracked = .ok effects) (label : Nat) :
    ∃ events : List Event, (∀ event ∈ events, event.Anchored tracked) ∧
      (∀ set, initTransfer effects label set =
        (events.map (Event.effect tracked)).foldl Effect.apply set) ∧
      (body.Reachable label → events.map Event.change = body.changesAt label) := by
  rcases lookup_effects determined label with ⟨unlisted, absent⟩ | ⟨events, asked, recorded⟩
  · refine ⟨[], by simp, fun set => by simp [initTransfer, absent], fun reached => ?_⟩
    exact absurd ((Flow.mem_discovery_iff hasFlow label).mpr reached) unlisted
  · rcases eventsAt_eq_ok asked with ⟨instr, here, asked⟩
    rcases changes_of_events found here asked with ⟨sameChanges, anchored⟩
    refine ⟨events, anchored, fun set => by simp [initTransfer, recorded], fun _ => ?_⟩
    rw [sameChanges, changesAt, here]
    rfl

/-- The analysis of a body with typed places exists if and only if it is known
which places are moved. -/
theorem exists_uninitialized_iff (valid : body.IsValid) (typed : body.PlacesTyped)
    (hasFlow : body.flow = .ok flow) :
    (∃ analysis, body.uninitialized flow = .ok analysis) ↔ body.MovesKnown := by
  rcases valid.inOrder with ⟨program, inOrder⟩
  constructor
  · rintro ⟨analysis, computed⟩ label instr reached here
    rcases uninitialized_eq_ok computed with ⟨tracked, effects, _, determined, _⟩
    have listed := (Flow.mem_discovery_iff hasFlow label).mpr reached
    rcases lookup_effects determined label with ⟨unlisted, _⟩ | ⟨events, asked, _⟩
    · exact absurd listed unlisted
    · rcases eventsAt_eq_ok asked with ⟨other, alsoHere, asked⟩
      rw [Option.some.inj (alsoHere.symm.trans here)] at asked
      exact (exists_events_iff fun place inInstr => typed place ⟨label, instr, here, inInstr⟩).mp
        ⟨events, asked⟩
  · intro known
    rcases typed.exists_trackedPlaces with ⟨tracked, found⟩
    have perLabel : ∀ label ∈ flow.discovery, ∃ pair : Nat × List (Effect tracked.length),
        (do return (label, (← body.eventsAt label).map (Event.effect tracked))) =
          (.ok pair : Except Fault (Nat × List (Effect tracked.length))) := by
      intro label listed
      have reached := (Flow.mem_discovery_iff hasFlow label).mp listed
      have below := Flow.lt_size_of_reachable hasFlow reached
      rw [Flow.size_eq hasFlow] at below
      rcases inOrder.exists_instr below with ⟨instr, here⟩
      rcases (exists_events_iff fun place inInstr => typed place ⟨label, instr, here, inInstr⟩).mpr
        (known label instr reached here) with ⟨events, asked⟩
      have atLabel : body.eventsAt label = .ok events := by
        unfold eventsAt
        rw [here]
        exact asked
      exact ⟨_, bind_eq_ok.mpr ⟨events, atLabel, rfl⟩⟩
    rcases mapM_ok_of_forall perLabel with ⟨effects, determined⟩
    exact ⟨_, inOrder.uninitialized_of_effects found determined⟩

end Body

namespace Uninitialized

variable {analysis : Uninitialized}

/-- The reported places are the tracked ones whose numbers are in the state. -/
theorem mem_placesAt_iff (distinct : analysis.tracked.Nodup) (label : Nat) (place : Place) :
    place ∈ analysis.placesAt label ↔
      ∃ set, analysis.states.at? label = some set ∧ place ∈ analysis.tracked ∧
        set.contains (placeNumber analysis.tracked place) = true := by
  unfold placesAt
  cases analysis.states.at? label with
  | none => simp
  | some set =>
      simp only [Option.map_some, Option.getD_some, placesOf, List.mem_filterMap,
        IndexSet.mem_toList, Option.some.injEq, exists_eq_left']
      constructor
      · rintro ⟨position, member, found⟩
        refine ⟨List.mem_of_getElem? found, ?_⟩
        rw [placeNumber_of_getElem? distinct found]
        exact member
      · rintro ⟨listed, member⟩
        exact ⟨_, member, getElem?_placeNumber listed⟩

/-- A place is not fully initialized if some tracked place within it may be
uninitialized. -/
theorem notFullyInit_iff (distinct : analysis.tracked.Nodup) (label : Nat) (place : Place) :
    analysis.notFullyInit label place = true ↔
      ∃ set, analysis.states.at? label = some set ∧ ∃ part ∈ analysis.tracked,
        part.isWithin place = true ∧
          set.contains (placeNumber analysis.tracked part) = true := by
  simp only [notFullyInit, List.any_eq_true, mem_placesAt_iff distinct]
  constructor
  · rintro ⟨part, ⟨set, here, listed, member⟩, inside⟩
    exact ⟨set, here, part, listed, inside, member⟩
  · rintro ⟨set, here, part, listed, inside, member⟩
    exact ⟨part, ⟨set, here, listed, member⟩, inside⟩

theorem isUninit_iff (distinct : analysis.tracked.Nodup) (label : Nat) (place : Place) :
    analysis.isUninit label place = true ↔
      ∃ set, analysis.states.at? label = some set ∧ place ∈ analysis.tracked ∧
        set.contains (placeNumber analysis.tracked place) = true := by
  rw [isUninit, List.contains_iff_mem, mem_placesAt_iff distinct]

end Uninitialized

namespace Body

variable {body : Body}

/-- A part is missing at the end of a path if the last change that affects it is a
loss, or if there is none and the part was not passed in. -/
theorem foldl_changes_iff (labels : List Nat) (part : Place) :
    (labels.flatMap body.changesAt).foldl (Change.act part)
        (decide (body.kindOf? part.root ≠ some .parameter)) = true ↔
      (∃ place, body.lastChange labels part = some (.lost place)) ∨
        (body.lastChange labels part = none ∧ body.kindOf? part.root ≠ some .parameter) := by
  rw [Change.foldl_act]
  change ((body.lastChange labels part).map Change.isLoss).getD _ = true ↔ _
  cases body.lastChange labels part with
  | none => simp
  | some change => cases change <;> simp [Change.isLoss]

/-- A place without tracked fields is in the set at a label if and only if some
path to the label leaves it missing. -/
theorem contains_uninitialized_iff {flow : Flow} (hasFlow : body.flow = .ok flow)
    {tracked : List Place} (found : body.trackedPlaces = .ok tracked)
    {effects : List (Nat × List (Effect tracked.length))}
    (determined : body.effects flow tracked = .ok effects) {part : Place}
    (listed : part ∈ tracked) (noFields : ∀ index, part.field index ∉ tracked) {label : Nat}
    {set : IndexSet tracked.length}
    (here : (flow.solveForward (body.entryState tracked) (initTransfer effects)).at? label =
      some set) :
    set.contains (placeNumber tracked part) = true ↔
      ∃ labels, Walk body.Edge body.entry.toNat labels label ∧
        ((∃ lost, body.lastChange labels part = some (.lost lost)) ∨
          (body.lastChange labels part = none ∧ body.kindOf? part.root ≠ some .parameter)) := by
  let effect (label : Nat) (missing : Bool) : Bool :=
    (body.changesAt label).foldl (Change.act part) missing
  have acts : ∀ label, body.Reachable label → ∀ set,
      (initTransfer effects label set).contains (placeNumber tracked part) =
        effect label (set.contains (placeNumber tracked part)) := by
    intro label reached set
    rcases exists_events_of_effects hasFlow found determined label with
      ⟨events, anchored, transferred, sameChanges⟩
    rw [transferred, Event.contains_foldl_apply anchored listed noFields, sameChanges reached]
  have entry : (body.entryState tracked).contains (placeNumber tracked part) =
      decide (body.kindOf? part.root ≠ some .parameter) := by
    rw [Bool.eq_iff_iff, contains_entryState listed, decide_eq_true_iff]
  rw [Flow.contains_solveForward_iff _ _ hasFlow _ effect acts
    (fun label _ _ smaller missing => Change.foldl_act_mono part _ smaller missing) here]
  constructor
  · rintro ⟨labels, walk, carried⟩
    rw [entry, Flow.carry, ← List.foldl_flatMap] at carried
    exact ⟨labels, walk, (foldl_changes_iff labels part).mp carried⟩
  · rintro ⟨labels, walk, missing⟩
    refine ⟨labels, walk, ?_⟩
    rw [entry, Flow.carry, ← List.foldl_flatMap]
    exact (foldl_changes_iff labels part).mpr missing

/-- At every label, an uninitialized structure has an uninitialized field. -/
theorem descends_uninitialized {flow : Flow} (hasFlow : body.flow = .ok flow)
    {tracked : List Place} (found : body.trackedPlaces = .ok tracked)
    {effects : List (Nat × List (Effect tracked.length))}
    (determined : body.effects flow tracked = .ok effects) {label : Nat}
    {set : IndexSet tracked.length}
    (here : (flow.solveForward (body.entryState tracked) (initTransfer effects)).at? label =
      some set) : Descends tracked set := by
  refine Flow.solveForward_holds _ _ (motive := fun _ set => Descends tracked set)
    descends_entryState (fun _ _ _ ofLeft ofRight => ofLeft.union ofRight) ?_ here
  intro source before target descends _
  rcases exists_events_of_effects hasFlow found determined source with
    ⟨events, anchored, transferred, _⟩
  rw [transferred]
  exact Event.descends_foldl_apply anchored descends

/-- The initialization analysis of a body whose places have types is exact for
fully initialized places.  It exists if it is known which places are moved.  A
place is then not fully initialized before a label if and only if, on some path
from the entry, a tracked part of it without tracked fields is missing: the last
change that affects the part is a loss, or there is none and the part does not
belong to a parameter. -/
theorem notFullyInit_iff_path (valid : body.IsValid) (typed : body.PlacesTyped) :
    ∃ flow, body.flow = .ok flow ∧
      ((∃ analysis, body.uninitialized flow = .ok analysis) ↔ body.MovesKnown) ∧
      ∀ analysis, body.uninitialized flow = .ok analysis →
        ∀ label, body.Reachable label → ∀ place : Place,
          (analysis.notFullyInit label place = true ↔
            ∃ labels part, Walk body.Edge body.entry.toNat labels label ∧
              part ∈ analysis.tracked ∧ part.isWithin place = true ∧
              (∀ index, part.field index ∉ analysis.tracked) ∧
              ((∃ lost, body.lastChange labels part = some (.lost lost)) ∨
                (body.lastChange labels part = none ∧
                  body.kindOf? part.root ≠ some .parameter))) := by
  rcases valid.inOrder with ⟨program, inOrder⟩
  rcases inOrder.exists_flow with ⟨flow, hasFlow⟩
  refine ⟨flow, hasFlow, exists_uninitialized_iff valid typed hasFlow, ?_⟩
  intro analysis computed label reached place
  rcases uninitialized_eq_ok computed with ⟨tracked, effects, found, determined, rfl⟩
  rw [Uninitialized.notFullyInit_iff (nodup_trackedPlaces found)]
  constructor
  · rintro ⟨set, here, part, partTracked, inside, member⟩
    have descends := descends_uninitialized hasFlow found determined here
    rcases descends.exists_leaf partTracked member with
      ⟨leaf, leafTracked, insidePart, noFields, leafMember⟩
    rcases (contains_uninitialized_iff hasFlow found determined leafTracked noFields here).mp
      leafMember with ⟨labels, walk, missing⟩
    exact ⟨labels, leaf, walk, leafTracked, Place.isWithin_trans insidePart inside, noFields,
      missing⟩
  · rintro ⟨labels, part, walk, partTracked, inside, noFields, missing⟩
    rcases (Flow.solveForward_isSome_iff _ (initTransfer effects) hasFlow label).mpr reached with
      ⟨set, here⟩
    refine ⟨set, here, part, partTracked, inside, ?_⟩
    exact (contains_uninitialized_iff hasFlow found determined partTracked noFields here).mpr
      ⟨labels, walk, missing⟩

/-- A body that moves a field of its parameter on one of two ways to the end. -/
def conditionalMove : Body :=
  { name := "conditional"
    program := some (.ofDeclarations
      [{ name := "Box", fields := [{ name := "value", type := .int }] },
       { name := "Pair"
         fields := [{ name := "left", type := .struct "Box" [] },
                    { name := "right", type := .struct "Box" [] }] }] [])
    locals := [
      { name := "out", kind := .result, type := .unit },
      { name := "pair", kind := .parameter, type := .struct "Pair" [] },
      { name := "box", type := .struct "Box" [] },
      { name := "flag", kind := .parameter, type := .bool }]
    code := [
      { instr := some (.branch 3 1 2) },
      { instr := some (.assign (.ofLocal 2) (.use ((Place.ofLocal 1).field 0)) 2) },
      { instr := some (.assign (.ofLocal 0) .unit 3) },
      { instr := some .ret }] }

/-- Where the ways meet, the parameter is not fully initialized: on one of them its
left field was moved last. -/
theorem conditionalMove_not_fully_initialized :
    ∃ flow analysis, conditionalMove.flow = .ok flow ∧
      conditionalMove.uninitialized flow = .ok analysis ∧
      conditionalMove.lastChange [0, 1] ((Place.ofLocal 1).field 0) =
        some (.lost ((Place.ofLocal 1).field 0)) ∧
      analysis.notFullyInit 2 (.ofLocal 1) = true := by
  let moved := (Place.ofLocal 1).field 0
  have valid : conditionalMove.IsValid := rfl
  have typed : conditionalMove.PlacesTyped := placesTyped_of_test (by decide +kernel)
  rcases notFullyInit_iff_path valid typed with ⟨flow, hasFlow, _, pathwise⟩
  have evaluated : (do
      let analysis ← conditionalMove.uninitialized (← conditionalMove.flow)
      return analysis.tracked.contains moved &&
        analysis.tracked.all fun place => place == moved || !place.isWithin moved).toOption =
      some true := by
    decide +kernel
  rw [hasFlow] at evaluated
  cases computed : conditionalMove.uninitialized flow with
  | error fault => simp [computed, bind, Except.bind, Except.toOption] at evaluated
  | ok analysis =>
      simp only [computed, bind, Except.bind, pure, Except.pure, Except.toOption,
        Option.some.injEq, Bool.and_eq_true, List.contains_iff_mem] at evaluated
      rcases evaluated with ⟨isTracked, others⟩
      have lastChange : conditionalMove.lastChange [0, 1] moved = some (.lost moved) := by
        decide +kernel
      have walk : Walk conditionalMove.Edge conditionalMove.entry.toNat [0, 1] 2 :=
        .next (.next .here ⟨_, rfl, by decide⟩) ⟨_, rfl, by decide⟩
      refine ⟨flow, analysis, hasFlow, computed, lastChange, ?_⟩
      apply (pathwise analysis computed 2 ⟨_, walk⟩ (.ofLocal 1)).mpr
      refine ⟨[0, 1], moved, walk, isTracked, by decide, ?_, .inl ⟨moved, lastChange⟩⟩
      intro index listed
      have inside := List.all_eq_true.mp others _ listed
      rw [moved.field_isWithin index] at inside
      simp [moved.field_ne_self index] at inside

end Body
end BorrowChecker
