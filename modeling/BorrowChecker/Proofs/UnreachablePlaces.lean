import BorrowChecker.Proofs.TornOwners
import BorrowChecker.Proofs.TypedVerdict
import BorrowChecker.Proofs.UnreachableCode

namespace BorrowChecker

/-!
Uninitialized places in bodies that differ in unreachable code.

All code takes part in deciding which places are tracked.  So one of two such bodies
may track places that the other does not.  No reachable instruction tells such a place
from the innermost place around it that the other body tracks too: what is moved or
written is tracked in both, and of a structure that a write completes both track all
declared fields.  By induction along the analysis, whatever is uninitialized in one
body has its innermost tracked place uninitialized in the other.  Both therefore agree
on the places that the initialization rule asks for.
-/

/-! ## The innermost tracked place -/

/-- The innermost tracked place around a place. -/
structure Innermost (tracked : List Place) (place outer : Place) : Prop where
  listed : outer ∈ tracked
  inside : place.isWithin outer = true
  least : ∀ other ∈ tracked, place.isWithin other = true → outer.isWithin other = true

namespace Innermost

variable {tracked : List Place} {place outer : Place}

theorem self (listed : place ∈ tracked) : Innermost tracked place place :=
  { listed, inside := place.isWithin_refl, least := fun _ _ around => around }

/-- Places of tracked locals have one. -/
theorem exists_of_root (rooted : .ofLocal place.root ∈ tracked) :
    ∃ outer, Innermost tracked place outer := by
  induction place using Place.extend_induction with
  | atLocal root => exact ⟨_, self rooted⟩
  | further place step inductionHypothesis =>
      by_cases listed : place.extend step ∈ tracked
      · exact ⟨_, self listed⟩
      · rcases inductionHypothesis rooted with ⟨outer, innermost⟩
        refine ⟨outer, innermost.listed,
          Place.isWithin_trans (place.extend_isWithin step) innermost.inside, ?_⟩
        intro other otherListed around
        rcases (Place.isWithin_extend_iff place other step).mp around with rfl | further
        · exact absurd otherListed listed
        · exact innermost.least other otherListed further

end Innermost

/-! ## Sets over different tracked places -/

/-- Whatever is in the first set, its innermost coarsely tracked place is in the
second. -/
def Covered (fine coarse : List Place) (set : IndexSet fine.length)
    (larger : IndexSet coarse.length) : Prop :=
  ∀ place ∈ fine, set.contains (placeNumber fine place) = true →
    ∀ outer, Innermost coarse place outer →
      larger.contains (placeNumber coarse outer) = true

namespace Covered

variable {fine coarse : List Place} {set : IndexSet fine.length} {larger : IndexSet coarse.length}

private theorem of_within {smaller : IndexSet fine.length}
    (covered : Covered fine coarse set larger)
    (included : smaller.Within set) : Covered fine coarse smaller larger :=
  fun place listed member => covered place listed (included _ member)

theorem trans_within {largest : IndexSet coarse.length} (covered : Covered fine coarse set larger)
    (included : larger.Within largest) : Covered fine coarse set largest :=
  fun place listed member outer innermost =>
    included _ (covered place listed member outer innermost)

theorem union {other : IndexSet fine.length} (first : Covered fine coarse set larger)
    (second : Covered fine coarse other larger) : Covered fine coarse (set.union other) larger := by
  intro place listed member
  rw [IndexSet.contains_union, Bool.or_eq_true] at member
  exact member.elim (first place listed) (second place listed)

/-- Losing a place that is tracked on both sides. -/
theorem lose (covered : Covered fine coarse set larger) {lost : Place} (shared : lost ∈ coarse) :
    Covered fine coarse (set.union (regionOf fine lost)) (larger.union (regionOf coarse lost)) := by
  apply union
  · exact covered.trans_within (.union_left _ _)
  · intro place listed member outer innermost
    rw [contains_regionOf listed] at member
    rw [IndexSet.contains_union, contains_regionOf innermost.listed,
      innermost.least lost shared member, Bool.or_true]

/-- Gaining a place, before the structures around it are looked at. -/
theorem gain (covered : Covered fine coarse set larger) (target : Place) :
    Covered fine coarse (set.diff (regionOf fine target))
      (larger.diff (regionOf coarse target)) := by
  intro place listed member outer innermost
  rw [IndexSet.contains_diff, contains_regionOf listed, Bool.and_eq_true, Bool.not_eq_true']
    at member
  have apart := Place.not_isWithin_of_part innermost.inside member.2
  rw [IndexSet.contains_diff, contains_regionOf innermost.listed, apart, Bool.not_false,
    Bool.and_true]
  exact covered place listed member.1 outer innermost

end Covered

/-- An owner whose parts are tracked on both sides, and which is the innermost coarsely
tracked place for nothing but itself. -/
structure Owner.Shared (fine coarse : List Place) (owner : Owner) : Prop where
  parts : ∀ part ∈ owner.parts, part ∈ fine ∧ part ∈ coarse
  alone : ∀ place ∈ fine, Innermost coarse place owner.place → place = owner.place

/-- An event that concerns places tracked on both sides. -/
def Event.Shared (fine coarse : List Place) : Event → Prop
  | deinit place => place ∈ coarse
  | init _ owners => ∀ owner ∈ owners, owner.Shared fine coarse

namespace Covered

variable {fine coarse : List Place} {set : IndexSet fine.length} {larger : IndexSet coarse.length}

/-- The climb from a written place. -/
theorem settle {owners : List Owner} (shared : ∀ owner ∈ owners, owner.Shared fine coarse)
    (covered : Covered fine coarse set larger) :
    Covered fine coarse (Effect.settle set (owners.map (Owner.numbered fine)))
      (Effect.settle larger (owners.map (Owner.numbered coarse))) := by
  induction owners generalizing set larger with
  | nil => exact covered
  | cons owner outer inductionHypothesis =>
      rcases List.forall_mem_cons.mp shared with ⟨head, tail⟩
      rw [List.map_cons, List.map_cons]
      cases stops : (owner.numbered coarse).parts.any larger.contains with
      | true =>
          rw [Effect.settle_of_part stops]
          exact covered.of_within (Effect.settle_within _ _)
      | false =>
          have alsoNone : (owner.numbered fine).parts.any set.contains = false := by
            simp only [Owner.numbered, List.any_map, List.any_eq_false, Function.comp_apply]
              at stops ⊢
            intro part isPart member
            rcases head.parts part isPart with ⟨inFine, inCoarse⟩
            exact stops part isPart (covered part inFine member part (.self inCoarse))
          rw [Effect.settle_of_no_part stops, Effect.settle_of_no_part alsoNone]
          apply inductionHypothesis tail
          intro place listed member around innermost
          rw [IndexSet.contains_erase, Bool.and_eq_true, decide_eq_true_iff] at member
          have different : owner.place ≠ around := by
            intro same
            rw [← same] at innermost
            rw [head.alone place listed innermost] at member
            exact member.2 rfl
          rw [IndexSet.contains_erase, covered place listed member.1 around innermost,
            Bool.true_and, decide_eq_true_iff]
          exact placeNumber_ne innermost.listed different

theorem apply {event : Event} (shared : event.Shared fine coarse)
    (covered : Covered fine coarse set larger) :
    Covered fine coarse (Effect.apply set (event.effect fine))
      (Effect.apply larger (event.effect coarse)) := by
  cases event with
  | deinit place => exact covered.lose shared
  | init place owners => exact (covered.gain place).settle shared

private theorem foldl_apply {events : List Event}
    (shared : ∀ event ∈ events, event.Shared fine coarse)
    (covered : Covered fine coarse set larger) :
    Covered fine coarse ((events.map (Event.effect fine)).foldl Effect.apply set)
      ((events.map (Event.effect coarse)).foldl Effect.apply larger) := by
  induction events generalizing set larger with
  | nil => exact covered
  | cons event rest inductionHypothesis =>
      rcases List.forall_mem_cons.mp shared with ⟨head, tail⟩
      exact inductionHypothesis tail (covered.apply head)

end Covered

/-! ## Tracked places and declarations -/

/-- The way to a place passes through a next step after each other place on it. -/
theorem Place.exists_extend_of_isWithin {place outer : Place}
    (inside : place.isWithin outer = true) (different : place ≠ outer) :
    ∃ step, place.isWithin (outer.extend step) = true := by
  induction place using Place.extend_induction with
  | atLocal root => exact absurd ((isWithin_ofLocal_iff root outer).mp inside).symm different
  | further place step inductionHypothesis =>
      rcases (isWithin_extend_iff place outer step).mp inside with same | further
      · exact absurd same.symm different
      · by_cases last : place = outer
        · exact ⟨step, last ▸ isWithin_refl _⟩
        · rcases inductionHypothesis further last with ⟨next, within⟩
          exact ⟨next, isWithin_trans (place.extend_isWithin step) within⟩

namespace Body

variable {body : Body} {tracked : List Place}

theorem exists_typeOf_of_structAt {place : Place} {decl : StructDecl}
    (declared : body.structAt place = .ok decl) : ∃ type, body.typeOf place = .ok type := by
  rcases bind_eq_ok.mp declared with ⟨type, typed, _⟩
  exact ⟨type, typed⟩

/-- From a structure a typed place goes on to a declared field. -/
theorem step_of_structAt {place : Place} {step : Step} {decl : StructDecl}
    (typed : ∃ type, body.typeOf (place.extend step) = .ok type)
    (declared : body.structAt place = .ok decl) :
    ∃ index < decl.fields.length, step = .field (index : Nat) := by
  cases step with
  | deref =>
      rcases typed with ⟨type, typed⟩
      rcases typeOf_extend typed with ⟨inner, innerTyped, stepped⟩
      rcases bind_eq_ok.mp declared with ⟨_, again, isStruct⟩
      rw [Except.ok.inj (again.symm.trans innerTyped)] at isStruct
      cases inner <;> simp [stepType] at stepped isStruct
  | field index =>
      rcases exists_fieldAt typed with ⟨found, field, again, there⟩
      rcases Except.ok.inj (again.symm.trans declared) with rfl
      rcases exists_natCast_of_memberAt there with ⟨position, below, rfl⟩
      exact ⟨position, below, rfl⟩

theorem ofLocal_mem_tracked (found : body.trackedPlaces = .ok tracked) {position : Nat}
    (below : position < body.locals.length) : .ofLocal (position : Nat) ∈ tracked := by
  rcases bind_eq_ok.mp found with ⟨_, _, result⟩
  rw [← Except.ok.inj result, List.mem_eraseDups]
  exact List.mem_append_left _ (List.mem_map.mpr ⟨position, List.mem_range.mpr below, rfl⟩)

/-- What is tracked, without reference to other tracked places: one step to a sibling
is enough, since a sibling is reached through the same places as the field it stands
next to. -/
theorem mem_tracked_iff (found : body.trackedPlaces = .ok tracked) (place : Place) :
    place ∈ tracked ↔
      (∃ position < body.locals.length, place = .ofLocal (position : Nat)) ∨
      (∃ origin, body.InCode origin ∧ origin.isWithin place = true) ∨
      ∃ origin parent index decl, ∃ position < decl.fields.length, body.InCode origin ∧
        origin.isWithin (parent.field index) = true ∧ body.structAt parent = .ok decl ∧
        place = parent.field (position : Nat) := by
  constructor
  · intro listed
    rcases exists_origin_of_tracked found listed with whole | traced
    · exact .inl whole
    · rcases traced with ⟨origin, inCode, outer, inLineage, rfl | sibling⟩
      · exact .inr (.inl ⟨origin, inCode, (Place.mem_lineage_iff _ _).mp inLineage⟩)
      · rcases sibling with ⟨owner, asked, isPart⟩
        rcases owner?_eq_ok asked with impossible | isField
        · exact absurd impossible.1 (Option.some_ne_none _)
        · rcases isField with ⟨parent, index, parts, _, rfl, _⟩
          rcases owner?_field.mp asked with ⟨decl, declared, isOwner⟩
          rcases Option.some.inj isOwner with rfl
          rcases List.mem_map.mp isPart with ⟨position, inRange, rfl⟩
          exact .inr (.inr ⟨origin, parent, index, decl, position, List.mem_range.mp inRange,
            inCode, (Place.mem_lineage_iff _ _).mp inLineage, declared, rfl⟩)
  · rintro (⟨position, below, rfl⟩ | ⟨origin, inCode, inside⟩ |
      ⟨origin, parent, index, decl, position, below, inCode, inside, declared, rfl⟩)
    · exact ofLocal_mem_tracked found below
    · exact (mem_tracked_of_inCode found inCode ((Place.mem_lineage_iff _ _).mpr inside)).1
    · exact (mem_tracked_of_inCode found inCode ((Place.mem_lineage_iff _ _).mpr inside)).2 _
        (owner?_field.mpr ⟨decl, declared, rfl⟩) _
        (List.mem_map_of_mem (List.mem_range.mpr below))

/-- A tracked place is typed, or it is a declared field of a typed structure. -/
theorem tracked_cases (typed : body.PlacesTyped) (found : body.trackedPlaces = .ok tracked)
    {place : Place} (listed : place ∈ tracked) :
    (∃ type, body.typeOf place = .ok type) ∨
      ∃ parent decl, ∃ index < decl.fields.length, body.structAt parent = .ok decl ∧
        place = parent.field (index : Nat) := by
  rcases (mem_tracked_iff found place).mp listed with
    ⟨position, below, rfl⟩ | ⟨origin, inCode, within⟩ |
      ⟨_, parent, _, decl, position, below, _, _, declared, rfl⟩
  · left
    rw [typeOf_ofLocal]
    exact exists_localType ((inRange_iff _ _).mpr ⟨position, rfl, below⟩)
  · exact .inl (exists_typeOf_of_isWithin within (typed origin inCode))
  · exact .inr ⟨parent, decl, position, below, declared, rfl⟩

/-- From a structure a tracked place goes on to a declared field. -/
theorem step_of_tracked (typed : body.PlacesTyped) (found : body.trackedPlaces = .ok tracked)
    {place outer : Place} (listed : place ∈ tracked) {step : Step}
    (inside : place.isWithin (outer.extend step) = true) {decl : StructDecl}
    (declared : body.structAt outer = .ok decl) :
    ∃ index < decl.fields.length, step = .field (index : Nat) := by
  rcases tracked_cases typed found listed with placeTyped | isField
  · exact step_of_structAt (exists_typeOf_of_isWithin inside placeTyped) declared
  · rcases isField with ⟨parent, parentDecl, index, below, parentDeclared, rfl⟩
    rcases Place.isWithin_of_field_isWithin inside with last | further
    · rcases Place.extend_inj.mp last with ⟨rfl, rfl⟩
      rcases Except.ok.inj (parentDeclared.symm.trans declared) with rfl
      exact ⟨index, below, rfl⟩
    · exact step_of_structAt
        (exists_typeOf_of_isWithin further (exists_typeOf_of_structAt parentDeclared)) declared

theorem Analyzed.trackedPlaces {analysis : Analysis} (analyzed : body.Analyzed analysis) :
    body.trackedPlaces = .ok analysis.uninitialized.tracked :=
  trackedPlaces_of_uninitialized analyzed.uninitialized

/-- Of every typed place the local belongs to the body. -/
theorem root_of_typed {place : Place} (typed : ∃ type, body.typeOf place = .ok type) :
    ∃ position < body.locals.length, place.root = (position : Nat) := by
  rcases typed with ⟨type, typed⟩
  rcases bind_eq_ok.mp typed with ⟨rootType, rootTyped, _⟩
  rcases localType_eq_ok.mp rootTyped with ⟨entry, there, _⟩
  exact exists_natCast_of_memberAt there

/-- Of every tracked place the local belongs to the body. -/
theorem root_of_tracked (typed : body.PlacesTyped) (found : body.trackedPlaces = .ok tracked)
    {place : Place} (listed : place ∈ tracked) :
    ∃ position < body.locals.length, place.root = (position : Nat) := by
  rcases tracked_cases typed found listed with placeTyped | isField
  · exact root_of_typed placeTyped
  · rcases isField with ⟨parent, decl, index, _, declared, rfl⟩
    have rooted := root_of_typed (exists_typeOf_of_structAt declared)
    exact rooted

/-- What an instruction mentions is tracked, with all it lies within. -/
theorem mem_tracked_of_mentioned {program : Program} (inOrder : body.InOrder program)
    (found : body.trackedPlaces = .ok tracked) {label : Nat} {instr : Instr}
    (here : body.instr? label = some instr) {place outer : Place}
    (mentions : place ∈ body.mentioned instr) (inside : place.isWithin outer = true) :
    outer ∈ tracked := by
  rcases inOrder.mentioned_cases here mentions with inCode | whole
  · exact (mem_tracked_of_inCode found inCode ((Place.mem_lineage_iff place outer).mpr inside)).1
  · rcases whole with ⟨position, below, rfl⟩
    rw [(Place.isWithin_ofLocal_iff _ outer).mp inside]
    exact ofLocal_mem_tracked found below

theorem mem_mentioned_of_loses {instr : Instr} {place : Place}
    (isLost : place ∈ body.losses instr) : place ∈ body.mentioned instr := by
  unfold mentioned
  simp only [List.mem_append]
  rcases mem_losses_iff.mp isLost with moved | ended
  · exact .inl (.inl (.inl (Instr.mem_places_of_movable moved.1)))
  · rcases ended with ⟨position, surrendered, rfl⟩
    cases instr with
    | deinit victim next =>
        exact .inl (.inr (List.mem_map_of_mem surrendered))
    | branch condition yes no =>
        rcases List.mem_singleton.mp surrendered with rfl
        exact .inl (.inl (.inl List.mem_cons_self))
    | assign | goto | call | ret => exact absurd surrendered List.not_mem_nil

/-- The owners of a written place are structures, and all their declared fields are
their parts. -/
theorem owner_eq_of_ownersAlong {target : Place} {owners : List Owner}
    (along : body.ownersAlong target.lineage = .ok owners) {owner : Owner}
    (listed : owner ∈ owners) :
    ∃ decl, body.structAt owner.place = .ok decl ∧ owner = ownerOf owner.place decl := by
  induction target using Place.extend_induction generalizing owners with
  | atLocal root =>
      rw [← Except.ok.inj along] at listed
      exact absurd listed List.not_mem_nil
  | further place step inductionHypothesis =>
      cases step with
      | deref =>
          rw [Except.ok.inj (along.symm.trans (ownersAlong_deref place))] at listed
          exact absurd listed List.not_mem_nil
      | field index =>
          rcases ownersAlong_field along with ⟨decl, rest, declared, alongRest, rfl⟩
          rcases List.mem_cons.mp listed with rfl | further
          · exact ⟨decl, declared, rfl⟩
          · exact inductionHypothesis alongRest further

theorem part_mem_tracked {target : Place} {owners : List Owner}
    (chain : OwnerChain tracked target owners) {owner : Owner} (listed : owner ∈ owners)
    {part : Place} (isPart : part ∈ owner.parts) : part ∈ tracked := by
  induction chain with
  | ended => exact absurd listed List.not_mem_nil
  | within _ fields _ inductionHypothesis =>
      rcases List.mem_cons.mp listed with rfl | further
      · exact (fields part isPart).1
      · exact inductionHypothesis further

/-! ## Bodies that differ in unreachable code -/

namespace SameReached

variable {other : Body} {program : Program}

theorem mentioned_eq (same : body.SameReached other) (instr : Instr) :
    other.mentioned instr = body.mentioned instr := by
  rcases same.frame with ⟨code, rfl⟩
  rfl

private theorem covered_entryState (same : body.SameReached other) (fine coarse : List Place) :
    Covered fine coarse (body.entryState fine) (other.entryState coarse) := by
  have sameKinds : other.kindOf? = body.kindOf? := by
    rcases same.frame with ⟨code, rfl⟩
    rfl
  intro place listed member outer innermost
  have sameRoot := ((Place.isWithin_iff place outer).mp innermost.inside).1
  rw [contains_entryState innermost.listed, sameKinds, ← sameRoot]
  exact (contains_entryState listed).mp member

section Events

variable {fine coarse : List Place} (same : body.SameReached other)
  (typed : body.PlacesTyped) (found : body.trackedPlaces = .ok fine)
  (foundOther : other.trackedPlaces = .ok coarse)

include same typed found foundOther

private theorem exists_innermost {place : Place} (listed : place ∈ fine) :
    ∃ outer, Innermost coarse place outer := by
  have sameLocals : other.locals = body.locals := by
    rcases same.frame with ⟨code, rfl⟩
    rfl
  rcases root_of_tracked typed found listed with ⟨position, below, isRoot⟩
  apply Innermost.exists_of_root
  rw [isRoot]
  exact ofLocal_mem_tracked foundOther (sameLocals ▸ below)

private theorem shared_owner {label : Nat} {instr : Instr} (reached : body.Reachable label)
    (here : body.instr? label = some instr) {target : Place}
    (writes : instr.target? = some target) {owners : List Owner}
    (along : body.ownersAlong target.lineage = .ok owners) {owner : Owner}
    (listed : owner ∈ owners) : owner.Shared fine coarse := by
  have hereOther : other.instr? label = some instr := (same.instr reached).trans here
  have alongOther : other.ownersAlong target.lineage = .ok owners := by
    rcases same.frame with ⟨code, rfl⟩
    rw [ownersAlong_withCode, along]
  have itself := (Place.mem_lineage_iff target target).mpr target.isWithin_refl
  have chain := ownerChain_of_ownersAlong found (inCode_of_target here writes) itself along
  have chainOther :=
    ownerChain_of_ownersAlong foundOther (inCode_of_target hereOther writes) itself alongOther
  constructor
  · intro part isPart
    exact ⟨part_mem_tracked chain listed isPart, part_mem_tracked chainOther listed isPart⟩
  · intro place placeListed innermost
    by_contra different
    rcases Place.exists_extend_of_isWithin innermost.inside different with ⟨step, inside⟩
    rcases owner_eq_of_ownersAlong along listed with ⟨decl, declared, isOwner⟩
    rcases step_of_tracked typed found placeListed inside declared with ⟨index, below, rfl⟩
    have isPart : owner.place.extend (.field index) ∈ owner.parts := by
      rw [isOwner]
      exact List.mem_map.mpr ⟨index, List.mem_range.mpr below, rfl⟩
    have closer := innermost.least _ (part_mem_tracked chainOther listed isPart) inside
    rw [Place.not_isWithin_extend] at closer
    exact Bool.false_ne_true closer

private theorem shared_event (inOrderOther : other.InOrder program) {label : Nat} {instr : Instr}
    (reached : body.Reachable label) (here : body.instr? label = some instr)
    {events : List Event} (asked : body.events instr = .ok events) {event : Event}
    (listed : event ∈ events) : event.Shared fine coarse := by
  have hereOther : other.instr? label = some instr := (same.instr reached).trans here
  have loses : ∀ place ∈ body.losses instr, (Event.deinit place).Shared fine coarse := by
    intro place isLost
    have mentions := same.mentioned_eq instr ▸ mem_mentioned_of_loses isLost
    exact mem_tracked_of_mentioned inOrderOther foundOther hereOther mentions place.isWithin_refl
  cases writes : instr.target? with
  | none =>
      rw [events_of_no_target asked writes] at listed
      rcases List.mem_map.mp listed with ⟨place, isLost, rfl⟩
      exact loses place isLost
  | some target =>
      rcases events_of_target asked writes with ⟨owners, along, rfl⟩
      rcases List.mem_append.mp listed with lost | written
      · rcases List.mem_map.mp lost with ⟨place, isLost, rfl⟩
        exact loses place isLost
      · rcases List.mem_singleton.mp written with rfl
        exact fun owner => same.shared_owner typed found foundOther reached here writes along

/-- What the instruction at a reachable label makes of sets that cover each other. -/
theorem covered_transfer (inOrderOther : other.InOrder program) {flow otherFlow : Flow}
    (hasFlow : body.flow = .ok flow) (hasFlowOther : other.flow = .ok otherFlow)
    {effects : List (Nat × List (Effect fine.length))}
    (determined : body.effects flow fine = .ok effects)
    {otherEffects : List (Nat × List (Effect coarse.length))}
    (determinedOther : other.effects otherFlow coarse = .ok otherEffects) {label : Nat}
    (reached : body.Reachable label) {set : IndexSet fine.length}
    {larger : IndexSet coarse.length} (covered : Covered fine coarse set larger) :
    Covered fine coarse (initTransfer effects label set)
      (initTransfer otherEffects label larger) := by
  rcases exists_eventsAt hasFlow determined reached with ⟨events, asked, transferred⟩
  rcases exists_eventsAt hasFlowOther determinedOther ((same.reachable_iff label).mpr reached) with
    ⟨otherEvents, askedOther, transferredOther⟩
  rcases eventsAt_eq_ok asked with ⟨instr, here, asked⟩
  have sameEvents : otherEvents = events := by
    rcases eventsAt_eq_ok askedOther with ⟨again, hereOther, askedOther⟩
    rw [same.instr reached] at hereOther
    rcases Option.some.inj (hereOther.symm.trans here) with rfl
    rcases same.frame with ⟨code, rfl⟩
    rw [events_withCode] at askedOther
    exact Except.ok.inj (askedOther.symm.trans asked)
  rw [transferred, transferredOther, sameEvents]
  apply covered.foldl_apply
  intro event listed
  exact same.shared_event typed found foundOther inOrderOther reached here asked listed

/-- Whatever is uninitialized at a label in one body, its innermost place that the
other body tracks is uninitialized there in the other.  The solution of the other body
is kept fixed while sets travel through this one. -/
theorem covered_solution (inOrderOther : other.InOrder program) {flow otherFlow : Flow}
    (hasFlow : body.flow = .ok flow) (hasFlowOther : other.flow = .ok otherFlow)
    {effects : List (Nat × List (Effect fine.length))}
    (determined : body.effects flow fine = .ok effects)
    {otherEffects : List (Nat × List (Effect coarse.length))}
    (determinedOther : other.effects otherFlow coarse = .ok otherEffects) {label : Nat}
    {set : IndexSet fine.length} {larger : IndexSet coarse.length}
    (here : (flow.solveForward (body.entryState fine) (initTransfer effects)).at? label = some set)
    (there : (otherFlow.solveForward (other.entryState coarse)
      (initTransfer otherEffects)).at? label = some larger) :
    Covered fine coarse set larger := by
  let solution := otherFlow.solveForward (other.entryState coarse) (initTransfer otherEffects)
  let motive (label : Nat) (set : IndexSet fine.length) : Prop :=
    body.Reachable label ∧ ∀ larger, solution.at? label = some larger →
      Covered fine coarse set larger
  suffices holds : motive label set from holds.2 larger there
  refine Flow.solveForward_holds _ _ ?_ ?_ ?_ here
  · rw [Flow.entry_eq hasFlow]
    refine ⟨⟨[], .here⟩, fun larger there => ?_⟩
    rcases Flow.solveForward_entry (other.entryState coarse) (initTransfer otherEffects)
      hasFlowOther with ⟨again, alsoThere, included⟩
    rw [Flow.entry_eq hasFlowOther, same.entry] at alsoThere
    rcases Option.some.inj (alsoThere.symm.trans there) with rfl
    exact (same.covered_entryState fine coarse).trans_within included
  · intro label left right ofLeft ofRight
    exact ⟨ofLeft.1, fun larger there => (ofLeft.2 larger there).union (ofRight.2 larger there)⟩
  · intro source before target ofSource edge
    rcases ofSource with ⟨reached, covered⟩
    have step := (Flow.mem_successors_iff hasFlow source target).mp edge
    refine ⟨reached.next step, fun larger there => ?_⟩
    rcases (Flow.solveForward_isSome_iff (other.entryState coarse) (initTransfer otherEffects)
      hasFlowOther source).mpr ((same.reachable_iff source).mpr reached) with
      ⟨beforeOther, atSource⟩
    rcases Flow.solveForward_edge _ _ hasFlowOther atSource ((same.edge_iff reached).mpr step) with
      ⟨again, alsoThere, included⟩
    rcases Option.some.inj (alsoThere.symm.trans there) with rfl
    exact (same.covered_transfer typed found foundOther inOrderOther hasFlow hasFlowOther determined
      determinedOther reached (covered beforeOther atSource)).trans_within included

end Events

section Analyses

variable {analysis later : Analysis} (same : body.SameReached other)
  (typed : body.PlacesTyped) (analyzed : body.Analyzed analysis)
  (analyzedOther : other.Analyzed later)

include same typed analyzed analyzedOther

/-- The analyses of two bodies relate as their states do. -/
theorem exists_outer_uninit {label : Nat} {place : Place}
    (missing : analysis.uninitialized.isUninit label place = true) :
    ∃ outer, Innermost later.uninitialized.tracked place outer ∧
      later.uninitialized.isUninit label outer = true := by
  rcases analyzedOther.valid.inOrder with ⟨_, inOrderOther⟩
  have computed := analyzed.uninitialized
  have computedOther := analyzedOther.uninitialized
  generalize analysis.uninitialized = uninitialized at missing computed
  generalize later.uninitialized = uninitializedOther at computedOther
  rcases uninitialized_eq_ok computed with ⟨fine, effects, found, determined, rfl⟩
  rcases uninitialized_eq_ok computedOther with
    ⟨coarse, otherEffects, foundOther, determinedOther, rfl⟩
  rcases (Uninitialized.isUninit_iff (nodup_trackedPlaces found) label place).mp missing with
    ⟨set, here, listed, member⟩
  rcases same.exists_innermost typed found foundOther listed with ⟨outer, innermost⟩
  have reached := (Flow.solveForward_isSome_iff _ _ analyzed.flow label).mp ⟨set, here⟩
  rcases (Flow.solveForward_isSome_iff (other.entryState coarse) (initTransfer otherEffects)
    analyzedOther.flow label).mpr ((same.reachable_iff label).mpr reached) with ⟨larger, there⟩
  have covered := same.covered_solution typed found foundOther inOrderOther analyzed.flow
    analyzedOther.flow determined determinedOther here there
  refine ⟨outer, innermost, ?_⟩
  exact (Uninitialized.isUninit_iff (nodup_trackedPlaces foundOther) label outer).mpr
    ⟨larger, there, innermost.listed, covered place listed member outer innermost⟩

theorem isUninit_of_isUninit {label : Nat} {place : Place}
    (listed : place ∈ later.uninitialized.tracked)
    (missing : analysis.uninitialized.isUninit label place = true) :
    later.uninitialized.isUninit label place = true := by
  rcases same.exists_outer_uninit typed analyzed analyzedOther missing with
    ⟨outer, innermost, missingOther⟩
  have itself := innermost.least place listed place.isWithin_refl
  rwa [Place.isWithin_antisymm itself innermost.inside] at missingOther

theorem notFullyInit_of_notFullyInit {label : Nat} {place : Place}
    (listed : place ∈ later.uninitialized.tracked)
    (missing : analysis.uninitialized.notFullyInit label place = true) :
    later.uninitialized.notFullyInit label place = true := by
  rcases List.any_eq_true.mp missing with ⟨part, reported, inside⟩
  rcases same.exists_outer_uninit typed analyzed analyzedOther
    (List.contains_iff_mem.mpr reported) with ⟨outer, innermost, missingOther⟩
  exact List.any_eq_true.mpr ⟨outer, List.contains_iff_mem.mp missingOther,
    innermost.least place listed inside⟩

end Analyses
end SameReached
end Body
end BorrowChecker
