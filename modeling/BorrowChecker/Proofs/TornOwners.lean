import BorrowChecker.Proofs.InitializationRule
import BorrowChecker.Proofs.PathStates

namespace BorrowChecker

/-!
Uninitialized places with initialized parts.

The initialization rule refuses to write a part of what is uninitialized, so that
whatever lies within an uninitialized place should be uninitialized as well.  The
rule is asked before the instruction, though, and an instruction can move a value
and then write a part of the place that it moved.  Unless that write restores all
of the place, because it goes to the only field of each structure on the way, the
place is torn: it is gone and one of its parts is there.

Where no instruction on the way tears a place, uninitialized places have
uninitialized parts.  An instruction that does tear one breaks this on every path
that leads through it.
-/

/-- Whatever lies within a place of the set is in the set. -/
def Inherits (tracked : List Place) (set : IndexSet tracked.length) : Prop :=
  ∀ outer ∈ tracked, ∀ inner ∈ tracked, inner.isWithin outer = true →
    set.contains (placeNumber tracked outer) = true →
      set.contains (placeNumber tracked inner) = true

theorem Inherits.union {tracked : List Place} {left right : IndexSet tracked.length}
    (ofLeft : Inherits tracked left) (ofRight : Inherits tracked right) :
    Inherits tracked (left.union right) := by
  intro outer outerTracked inner innerTracked inside member
  rw [IndexSet.contains_union, Bool.or_eq_true] at member ⊢
  apply member.imp
  · exact ofLeft outer outerTracked inner innerTracked inside
  · exact ofRight outer outerTracked inner innerTracked inside

theorem Inherits.deinit {tracked : List Place} {set : IndexSet tracked.length}
    (inherits : Inherits tracked set) (places : List Place) :
    Inherits tracked
      (((places.map Event.deinit).map (Event.effect tracked)).foldl Effect.apply set) := by
  intro outer outerTracked inner innerTracked inside member
  rw [contains_foldl_deinit outerTracked, Bool.or_eq_true, List.any_eq_true] at member
  rw [contains_foldl_deinit innerTracked, Bool.or_eq_true, List.any_eq_true]
  apply member.imp
  · exact inherits outer outerTracked inner innerTracked inside
  · rintro ⟨place, lost, within⟩
    exact ⟨place, lost, Place.isWithin_trans inside within⟩

theorem contains_diff_regionOf_self {tracked : List Place} {place : Place}
    (listed : place ∈ tracked) (set : IndexSet tracked.length) :
    (set.diff (regionOf tracked place)).contains (placeNumber tracked place) = false := by
  rw [IndexSet.contains_diff, contains_regionOf listed, place.isWithin_refl, Bool.not_true,
    Bool.and_false]

namespace Body

variable {body : Body} {tracked : List Place}

private theorem inherits_entryState : Inherits tracked (body.entryState tracked) := by
  intro outer outerTracked inner innerTracked inside member
  have sameRoot := ((Place.isWithin_iff inner outer).mp inside).1
  rw [contains_entryState innerTracked, sameRoot]
  exact (contains_entryState outerTracked).mp member

/-! ## Owners of a written place -/

/-- A structure with the places of its declared fields. -/
def ownerOf (place : Place) (decl : StructDecl) : Owner :=
  { place, parts := (List.range decl.fields.length).map fun (index : Nat) => place.field index }

theorem owner?_field {place : Place} {index : Int} {found : Option Owner} :
    body.owner? (place.field index) = .ok found ↔
      ∃ decl, body.structAt place = .ok decl ∧ found = some (ownerOf place decl) := by
  rw [Place.field, owner?, Place.parent?_extend, bind_eq_ok]
  simp [ownerOf, pure, Except.pure, eq_comm]

theorem ownersAlong_field {place : Place} {index : Int} {owners : List Owner}
    (along : body.ownersAlong (place.field index).lineage = .ok owners) :
    ∃ decl rest, body.structAt place = .ok decl ∧ body.ownersAlong place.lineage = .ok rest ∧
      owners = ownerOf place decl :: rest := by
  rw [Place.field, Place.lineage_extend, ← Place.field, ownersAlong] at along
  rcases bind_eq_ok.mp along with ⟨found, asked, along⟩
  rcases owner?_field.mp asked with ⟨decl, declared, rfl⟩
  rcases bind_eq_ok.mp along with ⟨rest, alongRest, result⟩
  exact ⟨decl, rest, declared, alongRest, (Except.ok.inj result).symm⟩

theorem ownersAlong_deref (place : Place) : body.ownersAlong place.deref.lineage = .ok [] := by
  rw [Place.deref, Place.lineage_extend, ownersAlong, owner?, Place.parent?_extend]
  rfl

/-- The climb from a written place touches only what the place lies within. -/
theorem contains_settle_of_apart {target part : Place} {owners : List Owner}
    (along : body.ownersAlong target.lineage = .ok owners) (listed : part ∈ tracked)
    (apart : target.isWithin part = false) (set : IndexSet tracked.length) :
    (Effect.settle set (owners.map (Owner.numbered tracked))).contains
      (placeNumber tracked part) = set.contains (placeNumber tracked part) := by
  induction target using Place.extend_induction generalizing owners set with
  | atLocal root =>
      have none : owners = [] := (Except.ok.inj along).symm
      rw [none]
      rfl
  | further place step inductionHypothesis =>
      cases step with
      | deref =>
          rcases Except.ok.inj ((ownersAlong_deref place).symm.trans along) with rfl
          rfl
      | field index =>
          rcases ownersAlong_field along with ⟨decl, rest, _, alongRest, rfl⟩
          have apartFromPlace := Place.not_isWithin_of_part (place.field_isWithin index) apart
          have different := placeNumber_ne listed (Place.ne_of_not_isWithin apartFromPlace)
          rw [List.map_cons]
          cases stops : ((ownerOf place decl).numbered tracked).parts.any set.contains with
          | true => rw [Effect.settle_of_part stops]
          | false =>
              rw [Effect.settle_of_no_part stops, inductionHypothesis alongRest apartFromPlace,
                IndexSet.contains_erase]
              simp [Owner.numbered, ownerOf, different]

/-! ## Writes that restore a place -/

/-- Writing a place restores another one as a whole: it is that place, or the only
declared field of a structure that restores it. -/
inductive Restores (body : Body) (lost : Place) : Place → Prop where
  | whole : Restores body lost lost
  | field {place : Place} {decl : StructDecl} {index : Int}
      (declared : body.structAt place = .ok decl)
      (only : ∀ other : Nat, other < decl.fields.length → (other : Int) = index)
      (outer : Restores body lost place) : Restores body lost (place.field index)

/-- The climb from a written place erases everything around it up to what it
restores. -/
theorem Restores.erased {lost target : Place} (restores : body.Restores lost target)
    {owners : List Owner} (along : body.ownersAlong target.lineage = .ok owners)
    {set : IndexSet tracked.length} (gone : set.contains (placeNumber tracked target) = false)
    {outer : Place} (inside : target.isWithin outer = true)
    (bounded : outer.isWithin lost = true) :
    (Effect.settle set (owners.map (Owner.numbered tracked))).contains
      (placeNumber tracked outer) = false := by
  induction restores generalizing owners set with
  | whole =>
      rw [Place.isWithin_antisymm bounded inside]
      exact (Effect.settle_within _ set).absent gone
  | @field place decl index declared only _ inductionHypothesis =>
      rcases (Place.isWithin_extend_iff place outer (.field index)).mp inside with rfl | further
      · exact (Effect.settle_within _ set).absent gone
      · rcases ownersAlong_field along with ⟨sameDecl, rest, alsoDeclared, alongRest, rfl⟩
        rcases Except.ok.inj (declared.symm.trans alsoDeclared) with rfl
        have noPart : ((ownerOf place decl).numbered tracked).parts.any set.contains = false := by
          rw [List.any_eq_false]
          intro number isPart
          rcases List.mem_map.mp isPart with ⟨part, listed, rfl⟩
          rcases List.mem_map.mp listed with ⟨other, below, rfl⟩
          rw [only other (List.mem_range.mp below), gone]
          exact Bool.false_ne_true
        rw [List.map_cons, Effect.settle_of_no_part noPart]
        apply inductionHypothesis alongRest _ further
        simp [IndexSet.contains_erase, Owner.numbered, ownerOf]

/-- Of one place nothing is there outside another. -/
def MissingBeside (tracked : List Place) (lost target : Place) (set : IndexSet tracked.length) :
    Prop :=
  ∀ part ∈ tracked, part.isWithin lost = true → part.isWithin target = false →
    set.contains (placeNumber tracked part) = true

section Beside

variable {lost place : Place} {index : Int} {set : IndexSet tracked.length}

theorem MissingBeside.climb (beside : MissingBeside tracked lost (place.field index) set) :
    MissingBeside tracked lost place (set.erase (placeNumber tracked place)) := by
  intro part listed within apart
  have different := placeNumber_ne listed (Ne.symm (Place.ne_of_not_isWithin apart))
  have unwritten := Place.not_isWithin_part (place.field_isWithin index) apart
  rw [IndexSet.contains_erase, Bool.and_eq_true, decide_eq_true_eq]
  exact ⟨beside part listed within unwritten, different⟩

theorem MissingBeside.index_eq (beside : MissingBeside tracked lost (place.field index) set)
    (inside : place.isWithin lost = true) {other : Int} (listed : place.field other ∈ tracked)
    (present : ¬ set.contains (placeNumber tracked (place.field other)) = true) :
    other = index := by
  apply Place.eq_of_field_isWithin_field
  rw [← Bool.not_eq_false]
  intro unwritten
  have within := Place.isWithin_trans (place.field_isWithin other) inside
  exact present (beside _ listed within unwritten)

end Beside

/-- If of what was lost only the written place is there, and the climb erases it, then
the write restores it. -/
theorem restores_of_erased {lost target : Place} (lostTracked : lost ∈ tracked)
    (near : ∀ outer, target.isWithin outer = true → ∀ owner,
      body.owner? outer = .ok (some owner) → ∀ part ∈ owner.parts, part ∈ tracked)
    {owners : List Owner} (along : body.ownersAlong target.lineage = .ok owners)
    (inside : target.isWithin lost = true) {set : IndexSet tracked.length}
    (beside : MissingBeside tracked lost target set)
    (erased : (Effect.settle set (owners.map (Owner.numbered tracked))).contains
      (placeNumber tracked lost) = false) : body.Restores lost target := by
  induction target using Place.extend_induction generalizing owners set with
  | atLocal root =>
      rw [(Place.isWithin_ofLocal_iff root lost).mp inside]
      exact .whole
  | further place step inductionHypothesis =>
      rcases (Place.isWithin_extend_iff place lost step).mp inside with rfl | further
      · exact .whole
      · have outside := Place.not_isWithin_of_part further (place.not_isWithin_extend step)
        have missing := beside lost lostTracked lost.isWithin_refl outside
        cases step with
        | deref =>
            rcases Except.ok.inj ((ownersAlong_deref place).symm.trans along) with rfl
            exact absurd (erased.symm.trans missing) Bool.false_ne_true
        | field index =>
            rcases ownersAlong_field along with ⟨decl, rest, declared, alongRest, rfl⟩
            rw [List.map_cons] at erased
            cases stops : ((ownerOf place decl).numbered tracked).parts.any set.contains with
            | true =>
                rw [Effect.settle_of_part stops] at erased
                exact absurd (erased.symm.trans missing) Bool.false_ne_true
            | false =>
                rw [Effect.settle_of_no_part stops] at erased
                refine .field declared ?_ ?_
                · intro other below
                  have isPart : place.field other ∈ (ownerOf place decl).parts :=
                    List.mem_map_of_mem (List.mem_range.mpr below)
                  have isTracked := near _ (Place.isWithin_refl _) _
                    (owner?_field.mpr ⟨decl, declared, rfl⟩) _ isPart
                  apply beside.index_eq further isTracked
                  exact List.any_eq_false.mp stops _ (List.mem_map_of_mem isPart)
                · apply inductionHypothesis _ alongRest further beside.climb erased
                  intro outer around
                  exact near outer (Place.isWithin_trans (place.field_isWithin index) around)

/-! ## Instructions that tear a place -/

/-- An instruction writes a part of a place that it loses, without restoring it. -/
def Tears (body : Body) (instr : Instr) : Prop :=
  ∃ target, instr.target? = some target ∧ ∃ lost ∈ body.losses instr,
    target.isWithin lost = true ∧ ¬ body.Restores lost target

/-- What an instruction that writes a place makes of a set: first the losses, then
the climb from the written place. -/
theorem foldl_events_of_target {instr : Instr} {events : List Event}
    (asked : body.events instr = .ok events) {target : Place}
    (writes : instr.target? = some target) (set : IndexSet tracked.length) :
    ∃ owners, body.ownersAlong target.lineage = .ok owners ∧
      (events.map (Event.effect tracked)).foldl Effect.apply set =
        Effect.settle
          (((((body.losses instr).map Event.deinit).map (Event.effect tracked)).foldl
            Effect.apply set).diff (regionOf tracked target))
          (owners.map (Owner.numbered tracked)) := by
  rcases events_of_target asked writes with ⟨owners, along, rfl⟩
  refine ⟨owners, along, ?_⟩
  rw [List.map_append, List.foldl_append]
  rfl

/-- An instruction that tears nothing keeps uninitialized places with uninitialized
parts, if everything around the place that it writes is initialized. -/
theorem inherits_of_not_tears {instr : Instr} {events : List Event}
    (asked : body.events instr = .ok events) (whole : ¬ body.Tears instr)
    {set : IndexSet tracked.length} (inherits : Inherits tracked set)
    (isTracked : ∀ target, instr.target? = some target → target ∈ tracked)
    (around : ∀ target, instr.target? = some target → ∀ outer ∈ tracked,
      target.isWithin outer = true → outer ≠ target →
        set.contains (placeNumber tracked outer) = false) :
    Inherits tracked ((events.map (Event.effect tracked)).foldl Effect.apply set) := by
  cases writes : instr.target? with
  | none =>
      rw [events_of_no_target asked writes]
      exact inherits.deinit _
  | some target =>
      rcases foldl_events_of_target asked writes set with ⟨owners, along, after⟩
      rw [after]
      intro outer outerTracked inner innerTracked inside member
      have remained := Effect.settle_within _ _ _ member
      rw [IndexSet.contains_diff, Bool.and_eq_true, contains_regionOf outerTracked,
        Bool.not_eq_true'] at remained
      cases enclosing : target.isWithin outer with
      | false =>
          have apart := Place.not_isWithin_part inside enclosing
          have unwritten : inner.isWithin target = false := by
            rw [Bool.eq_false_iff]
            intro written
            have overlap := Place.overlaps_of_common_part written inside
            rw [Place.overlaps, enclosing, remained.2] at overlap
            exact Bool.false_ne_true overlap
          have lost := inherits.deinit (body.losses instr) outer outerTracked inner innerTracked
            inside remained.1
          rw [contains_settle_of_apart along innerTracked apart, IndexSet.contains_diff, lost,
            contains_regionOf innerTracked, unwritten]
          rfl
      | true =>
          have different := Place.ne_of_not_isWithin remained.2
          have wasThere := around target writes outer outerTracked enclosing different
          have gone := remained.1
          rw [contains_foldl_deinit outerTracked, wasThere, Bool.false_or, List.any_eq_true] at gone
          rcases gone with ⟨lost, isLost, bounded⟩
          have restores : body.Restores lost target := by
            apply Classical.byContradiction
            intro torn
            exact whole ⟨target, writes, lost, isLost, Place.isWithin_trans enclosing bounded, torn⟩
          rw [restores.erased along (contains_diff_regionOf_self (isTracked target writes) _)
            enclosing bounded] at member
          exact absurd member Bool.false_ne_true

/-- What an instruction tears is gone after it, and the written part is there. -/
theorem exists_torn_of_tears (found : body.trackedPlaces = .ok tracked) {label : Nat}
    {instr : Instr} (here : body.instr? label = some instr) {events : List Event}
    (asked : body.events instr = .ok events) (tears : body.Tears instr)
    (set : IndexSet tracked.length) :
    ∃ outer ∈ tracked, ∃ inner ∈ tracked, inner.isWithin outer = true ∧
      ((events.map (Event.effect tracked)).foldl Effect.apply set).contains
        (placeNumber tracked outer) = true ∧
      ((events.map (Event.effect tracked)).foldl Effect.apply set).contains
        (placeNumber tracked inner) = false := by
  rcases tears with ⟨target, writes, lost, isLost, inside, torn⟩
  have inCode := inCode_of_target here writes
  have near := fun outer (around : target.isWithin outer = true) =>
    mem_tracked_of_inCode found inCode ((Place.mem_lineage_iff target outer).mpr around)
  have targetTracked := (near target target.isWithin_refl).1
  have lostTracked := (near lost inside).1
  rcases foldl_events_of_target asked writes set with ⟨owners, along, after⟩
  refine ⟨lost, lostTracked, target, targetTracked, inside, ?_, ?_⟩
  · rw [after, ← Bool.not_eq_false]
    intro erased
    apply torn
    apply restores_of_erased lostTracked (fun outer around => (near outer around).2) along inside _
      erased
    intro part listed within unwritten
    rw [IndexSet.contains_diff, contains_regionOf listed, unwritten,
      contains_foldl_deinit listed, Bool.not_false, Bool.and_true, Bool.or_eq_true,
      List.any_eq_true]
    exact .inr ⟨lost, isLost, within⟩
  · rw [after]
    apply (Effect.settle_within _ _).absent
    exact contains_diff_regionOf_self targetTracked _

/-! ## Accepted bodies -/

/-- Before an instruction that the rule admits, the structures that hold the place it
writes are initialized. -/
theorem Admitted.owner_present {analysis : Uninitialized} {label : Nat} {instr : Instr}
    (admitted : body.Admitted analysis label instr) (distinct : analysis.tracked.Nodup)
    {set final : IndexSet analysis.tracked.length}
    (there : analysis.states.at? label = some final) (included : set.Within final)
    {target : Place} (writes : instr.target? = some target) {owner : Place}
    (isOwner : owner ∈ writtenOwners target.lineage) (isTracked : owner ∈ analysis.tracked) :
    set.contains (placeNumber analysis.tracked owner) = false := by
  apply included.absent
  have present := admitted.owners target writes owner isOwner
  rw [Bool.eq_false_iff] at present ⊢
  intro missing
  apply present
  exact (Uninitialized.isUninit_iff distinct label owner).mpr ⟨final, there, isTracked, missing⟩

/-- Before an instruction that the rule admits, everything around the place that it
writes is initialized. -/
theorem Admitted.around_target {analysis : Uninitialized} {label : Nat} {instr : Instr}
    (admitted : body.Admitted analysis label instr) (distinct : analysis.tracked.Nodup)
    {set final : IndexSet analysis.tracked.length}
    (there : analysis.states.at? label = some final) (included : set.Within final)
    (inherits : Inherits analysis.tracked set) {target : Place}
    (writes : instr.target? = some target)
    (isTracked : ∀ outer, target.isWithin outer = true → outer ∈ analysis.tracked) {outer : Place}
    (inside : target.isWithin outer = true) (different : outer ≠ target) :
    set.contains (placeNumber analysis.tracked outer) = false := by
  rcases mem_writtenOwners_or_pointer inside different with
    isOwner | ⟨pointer, isPointer, behind, within⟩
  · exact admitted.owner_present distinct there included writes isOwner (isTracked outer inside)
  · have pointerTracked := isTracked pointer behind
    have whole := fullyInitialized_of_within distinct there included
      (admitted.pointer target writes pointer isPointer)
    have present := fullyInitialized_iff.mp whole pointer pointerTracked pointer.isWithin_refl
    rw [Bool.eq_false_iff] at present ⊢
    intro missing
    exact present (inherits outer (isTracked outer inside) pointer pointerTracked within missing)

/-- No instruction that is executed on a way to a label tears a place. -/
def Untorn (body : Body) (label : Nat) : Prop :=
  ∀ labels, Walk body.Edge body.entry.toNat labels label → ∀ executed ∈ labels, ∀ instr,
    body.instr? executed = some instr → ¬ body.Tears instr

theorem Untorn.source {source target : Nat} (untorn : body.Untorn target)
    (step : body.Edge source target) : body.Untorn source := by
  intro labels walk executed before
  exact untorn _ (walk.next step) executed (List.mem_append_left _ before)

/-- Whether every instruction writes apart from what it loses. -/
def writesApart (body : Body) : Bool :=
  body.code.all fun stmt => stmt.instr.all fun instr => instr.target?.all fun target =>
    (body.losses instr).all fun lost => !target.isWithin lost

private theorem untorn_of_writesApart (tested : body.writesApart = true) (label : Nat) :
    body.Untorn label := by
  rintro _ _ executed _ instr here ⟨target, writes, lost, isLost, inside, _⟩
  rcases instr?_eq_some.mp here with ⟨stmt, there, present⟩
  have ofStmt := List.all_eq_true.mp tested stmt (List.mem_of_getElem? there)
  rw [present, Option.all_some, writes, Option.all_some] at ofStmt
  have apart := List.all_eq_true.mp ofStmt lost isLost
  rw [inside] at apart
  exact Bool.false_ne_true apart

/-- As long as no place was torn, the analysis reports the parts of what it reports. -/
theorem inherits_solution {flow : Flow} {effects : List (Nat × List (Effect tracked.length))}
    (hasFlow : body.flow = .ok flow) (found : body.trackedPlaces = .ok tracked)
    (determined : body.effects flow tracked = .ok effects)
    (admitted : ∀ label, body.Reachable label → ∀ instr, body.instr? label = some instr →
      body.Admitted { tracked, states :=
        flow.solveForward (body.entryState tracked) (initTransfer effects) } label instr)
    {label : Nat} {set : IndexSet tracked.length}
    (there : (flow.solveForward (body.entryState tracked) (initTransfer effects)).at? label =
      some set) (untorn : body.Untorn label) : Inherits tracked set := by
  revert untorn
  refine Flow.solveForward_holds_within (body.entryState tracked) (initTransfer effects)
    (fun label _ _ smaller => initTransfer_mono label smaller) hasFlow
    (motive := fun label set => body.Untorn label → Inherits tracked set) ?_ ?_ ?_ there
  · intro _
    exact inherits_entryState
  · intro label left right ofLeft ofRight untorn
    exact (ofLeft untorn).union (ofRight untorn)
  · intro source before final next ofSource solved included step untorn
    have inherits := ofSource (untorn.source step)
    have reached : body.Reachable source :=
      (Flow.solveForward_isSome_iff _ (initTransfer effects) hasFlow source).mp ⟨final, solved⟩
    rcases exists_eventsAt hasFlow determined reached with ⟨events, asked, transferred⟩
    rcases eventsAt_eq_ok asked with ⟨instr, here, asked⟩
    have isTracked : ∀ target, instr.target? = some target → ∀ outer,
        target.isWithin outer = true → outer ∈ tracked := by
      intro target writes outer inside
      have listed := (Place.mem_lineage_iff target outer).mpr inside
      exact (mem_tracked_of_inCode found (inCode_of_target here writes) listed).1
    rw [transferred]
    apply inherits_of_not_tears asked _ inherits
    · intro target writes
      exact isTracked target writes target target.isWithin_refl
    · intro target writes outer _ inside different
      exact (admitted source reached instr here).around_target (nodup_trackedPlaces found) solved
        included inherits writes (isTracked target writes) inside different
    · rcases reached with ⟨labels, walk⟩
      exact untorn _ (walk.next step) source (by simp) instr here

/-- In a body that passes the initialization rule, the parts of an uninitialized place
are uninitialized at every label, unless an instruction on a way to the label tears a
place.  On every path through such an instruction, a place is missing and a part of it
is not. -/
theorem uninit_parts_of_untorn {analysis : Analysis} (analyzed : body.analyze = .ok analysis)
    (silent : analysis.firstViolation .initialization = .ok none) :
    (∀ label, body.Untorn label → ∀ outer ∈ analysis.uninitialized.tracked,
      ∀ inner ∈ analysis.uninitialized.tracked, inner.isWithin outer = true →
        analysis.uninitialized.isUninit label outer = true →
          analysis.uninitialized.isUninit label inner = true) ∧
    ∀ labels label instr, Walk body.Edge body.entry.toNat labels label →
      body.instr? label = some instr → body.Tears instr →
        ∃ set, body.missingAfter analysis.uninitialized.tracked (labels ++ [label]) = .ok set ∧
          ¬ Inherits analysis.uninitialized.tracked set := by
  have accepted := acceptedBy_of_firstViolation analyzed silent
  have admitted := fun label (reached : body.Reachable label) instr
    (here : body.instr? label = some instr) => accepted.admitted reached here
  have computed := accepted.uninitialized
  generalize analysis.uninitialized = uninitialized at admitted computed
  rcases uninitialized_eq_ok computed with ⟨tracked, effects, found, determined, rfl⟩
  have distinct := nodup_trackedPlaces found
  constructor
  · intro label untorn outer outerTracked inner innerTracked inside
    rw [Uninitialized.isUninit_iff distinct, Uninitialized.isUninit_iff distinct]
    rintro ⟨set, there, _, missing⟩
    have inherits := inherits_solution accepted.flow found determined admitted there untorn
    exact ⟨set, there, innerTracked,
      inherits outer outerTracked inner innerTracked inside missing⟩
  · intro labels label instr walk here tears
    rcases exists_missingAfter accepted.flow computed walk with ⟨set, _, followed, _⟩
    rcases exists_eventsAt accepted.flow determined ⟨labels, walk⟩ with ⟨events, asked, _⟩
    have after : body.missingAfter tracked (labels ++ [label]) =
        .ok ((events.map (Event.effect tracked)).foldl Effect.apply set) := by
      rw [missingAfter_append labels label followed]
      exact transferAt_eq_ok.mpr ⟨events, asked, rfl⟩
    rcases exists_torn_of_tears found here (events_of_eventsAt asked here) tears set with
      ⟨outer, outerTracked, inner, innerTracked, inside, missing, present⟩
    refine ⟨_, after, ?_⟩
    intro inherits
    have alsoMissing := inherits outer outerTracked inner innerTracked inside missing
    exact Bool.false_ne_true (present.symm.trans alsoMissing)

/-- A body that moves its parameter on one of two ways and builds it anew where they
meet. -/
def rebuiltParameter : Body :=
  { name := "rebuilt"
    program := some boxProgram
    locals := [
      { name := "out", kind := .result, type := .int },
      { name := "x", kind := .parameter, type := .struct "Two" [] },
      { name := "flag", kind := .parameter, type := .bool },
      { name := "b", kind := .parameter, type := .struct "Box" [] },
      { name := "d", kind := .parameter, type := .struct "Box" [] },
      { name := "y", type := .struct "Two" [] }]
    code := [
      { instr := some (.branch 2 1 2) },
      { instr := some (.assign (.ofLocal 5) (.use (.ofLocal 1)) 2) },
      { instr := some (.assign (.ofLocal 1) (.make "Two" [3, 4]) 3) },
      { instr := some (.assign (.ofLocal 0) (.use (((Place.ofLocal 1).field 0).field 0)) 4) },
      { instr := some .ret }] }

/-- Where the ways meet, the parameter is uninitialized with all its parts. -/
theorem rebuiltParameter_uninit_parts :
    ∃ analysis, rebuiltParameter.analyze = .ok analysis ∧
      analysis.firstViolation .initialization = .ok none ∧
      analysis.uninitialized.isUninit 2 (.ofLocal 1) = true ∧
      ((Place.ofLocal 1).field 0).field 0 ∈ analysis.uninitialized.tracked ∧
      ∀ part ∈ analysis.uninitialized.tracked, part.isWithin (.ofLocal 1) = true →
        analysis.uninitialized.isUninit 2 part = true := by
  have evaluated : rebuiltParameter.acceptedWith (fun report =>
      let uninitialized := report.analysis.uninitialized
      uninitialized.isUninit 2 (.ofLocal 1) && (uninitialized.tracked.contains (.ofLocal 1) &&
        uninitialized.tracked.contains (((Place.ofLocal 1).field 0).field 0))) = true := by
    decide +kernel
  rcases exists_report_of_acceptedWith evaluated with ⟨report, reported, clean, found⟩
  rw [Bool.and_eq_true, Bool.and_eq_true, List.contains_iff_mem, List.contains_iff_mem] at found
  rcases found with ⟨missing, isTracked, partTracked⟩
  rcases silent_of_report reported clean with ⟨analyzed, silent⟩
  have untorn : rebuiltParameter.Untorn 2 := untorn_of_writesApart (by decide +kernel) 2
  refine ⟨_, analyzed, silent _, missing, partTracked, ?_⟩
  intro part listed inside
  exact (uninit_parts_of_untorn analyzed (silent _)).1 2 untorn _ isTracked part listed inside
    missing

/-- A body that hands a structure over and keeps the result in one of its fields. -/
def tornParameter : Body :=
  { name := "torn"
    program := some (.ofDeclarations
      [{ name := "Pair"
         fields := [{ name := "first", type := .int }, { name := "second", type := .int }] }]
      [{ name := "consume", parameters := [.struct "Pair" []], result := .int }])
    locals := [
      { name := "out", kind := .result, type := .int },
      { name := "p", kind := .parameter, type := .struct "Pair" [] }]
    code := [
      { instr := some (.call "consume" [1] ((Place.ofLocal 1).field 0) 1) },
      { instr := some (.assign (.ofLocal 0) (.use ((Place.ofLocal 1).field 0)) 2) },
      { instr := some .ret }] }

/-- The body is accepted although the structure is uninitialized and the field is
not. -/
theorem tornParameter_initialized_part :
    ∃ report, tornParameter.report [] = .ok report ∧ report.violation? = none ∧
      tornParameter.Reachable 1 ∧
      .ofLocal 1 ∈ report.analysis.uninitialized.tracked ∧
      (Place.ofLocal 1).field 0 ∈ report.analysis.uninitialized.tracked ∧
      report.analysis.uninitialized.isUninit 1 (.ofLocal 1) = true ∧
      report.analysis.uninitialized.isUninit 1 ((Place.ofLocal 1).field 0) = false := by
  have evaluated : tornParameter.acceptedWith (fun report =>
      let uninitialized := report.analysis.uninitialized
      (uninitialized.tracked.contains (.ofLocal 1) &&
        uninitialized.tracked.contains ((Place.ofLocal 1).field 0)) &&
      (uninitialized.isUninit 1 (.ofLocal 1) &&
        !uninitialized.isUninit 1 ((Place.ofLocal 1).field 0))) = true := by
    decide +kernel
  rcases exists_report_of_acceptedWith evaluated with ⟨report, reported, clean, found⟩
  rw [Bool.and_eq_true, Bool.and_eq_true, Bool.and_eq_true, List.contains_iff_mem,
    List.contains_iff_mem, Bool.not_eq_true'] at found
  rcases found with ⟨⟨isTracked, partTracked⟩, missing, present⟩
  exact ⟨report, reported, clean, ⟨[0], .next .here ⟨_, rfl, by decide⟩⟩, isTracked, partTracked,
    missing, present⟩

end Body
end BorrowChecker
