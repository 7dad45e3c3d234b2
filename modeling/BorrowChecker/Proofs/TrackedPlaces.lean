import BorrowChecker.Initialization.Uninitialized
import BorrowChecker.Proofs.FirstOccurrences
import BorrowChecker.Proofs.ValidBodies

namespace BorrowChecker

/-!
Which places are tracked.

Whenever the places in the code of a body have types, the tracked places can be
determined: each field on the way to such a place is a field of a declared
structure.  Tracked are the places in the code, everything they are reached
through and the fields next to those.  No place is listed twice.
-/

namespace Place

/-! ## Extending a place -/

/-- A property of whole locals that every further step keeps holds of all
places. -/
theorem extend_induction {motive : Place → Prop} (atLocal : ∀ root, motive (.ofLocal root))
    (further : ∀ place step, motive place → motive (place.extend step)) (place : Place) :
    motive place := by
  rcases place with ⟨root, path⟩
  suffices backward : ∀ steps : List Step, motive ⟨root, steps.reverse⟩ by
    have whole := backward path.reverse
    rwa [List.reverse_reverse] at whole
  intro steps
  induction steps with
  | nil => exact atLocal root
  | cons step rest inductionHypothesis =>
      have extended := further _ step inductionHypothesis
      rwa [extend, ← List.reverse_cons] at extended

theorem extend_inj {left right : Place} {leftStep rightStep : Step} :
    left.extend leftStep = right.extend rightStep ↔ left = right ∧ leftStep = rightStep := by
  rcases left with ⟨leftRoot, leftPath⟩
  rcases right with ⟨rightRoot, rightPath⟩
  simp only [extend, mk.injEq]
  constructor
  · rintro ⟨sameRoot, samePath⟩
    have parts := List.append_inj' samePath rfl
    exact ⟨⟨sameRoot, parts.1⟩, (List.cons.inj parts.2).1⟩
  · rintro ⟨⟨sameRoot, samePath⟩, sameStep⟩
    rw [sameRoot, samePath, sameStep]
    exact ⟨rfl, rfl⟩

theorem field_inj {left right : Place} {leftIndex rightIndex : Int} :
    left.field leftIndex = right.field rightIndex ↔ left = right ∧ leftIndex = rightIndex := by
  simp [field, extend_inj]

theorem ofLocal_ne_extend (root : Int) (place : Place) (step : Step) :
    ofLocal root ≠ place.extend step := by
  simp [ofLocal, extend]

theorem field_ne_self (place : Place) (index : Int) : place.field index ≠ place := by
  intro same
  have lengths := congrArg (fun other => other.path.length) same
  simp [field, extend] at lengths

private theorem parent?_ofLocal (root : Int) : (ofLocal root).parent? = none := rfl

theorem parent?_extend (place : Place) (step : Step) :
    (place.extend step).parent? = some (place, step) := by
  simp [parent?, extend]

theorem lineage_ofLocal (root : Int) : (ofLocal root).lineage = [ofLocal root] := rfl

theorem lineage_extend (place : Place) (step : Step) :
    (place.extend step).lineage = place.extend step :: place.lineage := by
  rcases place with ⟨root, path⟩
  simp only [lineage, extend, List.length_append, List.length_singleton]
  rw [List.range_succ, List.reverse_append, List.reverse_singleton, List.singleton_append,
    List.map_cons, List.take_of_length_le (by simp)]
  congr 1
  apply List.map_congr_left
  intro steps listed
  have inside : steps < path.length + 1 := List.mem_range.mp (List.mem_reverse.mp listed)
  rw [List.take_append_of_le_length (by omega)]

/-- The places that a place is reached through are those it lies within. -/
theorem mem_lineage_iff (place outer : Place) :
    outer ∈ place.lineage ↔ place.isWithin outer = true := by
  rw [isWithin_iff]
  simp only [lineage, List.mem_map, List.mem_reverse, List.mem_range]
  constructor
  · rintro ⟨steps, _, rfl⟩
    exact ⟨rfl, List.take_prefix steps place.path⟩
  · rintro ⟨sameRoot, front⟩
    refine ⟨outer.path.length, Nat.lt_succ_of_le front.length_le, ?_⟩
    rw [← List.prefix_iff_eq_take.mp front, sameRoot]

theorem isWithin_ofLocal_iff (root : Int) (outer : Place) :
    (ofLocal root).isWithin outer = true ↔ outer = ofLocal root := by
  rw [← mem_lineage_iff, lineage_ofLocal, List.mem_singleton]

/-- What contains an extended place is the place itself or contains the place before
the last step. -/
theorem isWithin_extend_iff (place outer : Place) (step : Step) :
    (place.extend step).isWithin outer = true ↔
      outer = place.extend step ∨ place.isWithin outer = true := by
  rw [← mem_lineage_iff, lineage_extend, List.mem_cons, mem_lineage_iff]

theorem extend_isWithin (place : Place) (step : Step) :
    (place.extend step).isWithin place = true :=
  (isWithin_extend_iff place place step).mpr (.inr place.isWithin_refl)

theorem field_isWithin (place : Place) (index : Int) : (place.field index).isWithin place = true :=
  place.extend_isWithin _

theorem isWithin_of_field_isWithin {place outer : Place} {index : Int}
    (inside : (place.field index).isWithin outer = true) :
    outer = place.field index ∨ place.isWithin outer = true :=
  (isWithin_extend_iff place outer _).mp inside

theorem isWithin_antisymm {left right : Place} (first : left.isWithin right = true)
    (second : right.isWithin left = true) : left = right := by
  rcases left with ⟨leftRoot, leftPath⟩
  rcases right with ⟨rightRoot, rightPath⟩
  rw [isWithin_iff] at first second
  rw [mk.injEq]
  exact ⟨first.1, second.2.eq_of_length_le first.2.length_le⟩

/-- Two places with a common part contain one another. -/
theorem overlaps_of_common_part {part left right : Place} (ofLeft : part.isWithin left = true)
    (ofRight : part.isWithin right = true) : left.overlaps right = true := by
  rw [isWithin_iff] at ofLeft ofRight
  rw [overlaps, Bool.or_eq_true, isWithin_iff, isWithin_iff]
  rcases List.prefix_or_prefix_of_prefix ofLeft.2 ofRight.2 with shorter | longer
  · exact .inr ⟨ofRight.1.symm.trans ofLeft.1, shorter⟩
  · exact .inl ⟨ofLeft.1.symm.trans ofRight.1, longer⟩

/-! ### Places in the storage of another -/

theorem isStoredIn_iff (inner outer : Place) :
    inner.isStoredIn outer = true ↔
      ∃ steps, inner = { outer with path := outer.path ++ steps } ∧
        steps.any Step.isDeref = false := by
  rw [isStoredIn, Bool.and_eq_true, isWithin_iff, Bool.not_eq_true']
  constructor
  · rintro ⟨⟨sameRoot, steps, path⟩, direct⟩
    rw [← path, List.drop_left] at direct
    refine ⟨steps, ?_, direct⟩
    rw [← sameRoot, path]
  · rintro ⟨steps, rfl, direct⟩
    refine ⟨⟨rfl, List.prefix_append _ _⟩, ?_⟩
    rw [List.drop_left]
    exact direct

theorem isWithin_of_isStoredIn {inner outer : Place} (stored : inner.isStoredIn outer = true) :
    inner.isWithin outer = true :=
  (Bool.and_eq_true_iff.mp stored).1

theorem isStoredIn_refl (place : Place) : place.isStoredIn place = true :=
  (isStoredIn_iff place place).mpr ⟨[], by simp, rfl⟩

theorem isStoredIn_trans {inner middle outer : Place} (first : inner.isStoredIn middle = true)
    (second : middle.isStoredIn outer = true) : inner.isStoredIn outer = true := by
  rw [isStoredIn_iff] at *
  rcases second with ⟨front, rfl, frontDirect⟩
  rcases first with ⟨back, rfl, backDirect⟩
  refine ⟨front ++ back, by simp, ?_⟩
  rw [List.any_append, frontDirect, backDirect]
  rfl

theorem field_isStoredIn (place : Place) (index : Int) :
    (place.field index).isStoredIn place = true :=
  (isStoredIn_iff _ _).mpr ⟨[.field index], rfl, rfl⟩

/-! ### Places that do not lie within another -/

theorem not_isWithin_extend (place : Place) (step : Step) :
    place.isWithin (place.extend step) = false := by
  rw [Bool.eq_false_iff, Ne, isWithin_iff]
  rintro ⟨_, front⟩
  have lengths := front.length_le
  simp only [extend, List.length_append, List.length_singleton] at lengths
  omega

theorem eq_of_field_isWithin_field {place : Place} {inner outer : Int}
    (inside : (place.field inner).isWithin (place.field outer) = true) : inner = outer := by
  rcases isWithin_of_field_isWithin inside with same | within
  · exact (field_inj.mp same).2.symm
  · have impossible := place.not_isWithin_extend (.field outer)
    exact absurd (impossible.symm.trans within) Bool.false_ne_true

theorem ne_of_not_isWithin {place outer : Place} (apart : place.isWithin outer = false) :
    place ≠ outer := by
  rintro rfl
  rw [place.isWithin_refl] at apart
  exact Bool.false_ne_true apart.symm

theorem not_isWithin_of_part {part place outer : Place} (inside : part.isWithin place = true)
    (apart : part.isWithin outer = false) : place.isWithin outer = false := by
  rw [Bool.eq_false_iff] at apart ⊢
  exact fun around => apart (isWithin_trans inside around)

theorem not_isWithin_part {part place outer : Place} (inside : part.isWithin outer = true)
    (apart : place.isWithin outer = false) : place.isWithin part = false := by
  rw [Bool.eq_false_iff] at apart ⊢
  exact fun within => apart (isWithin_trans within inside)

end Place

/-! ## Types of the places that a place is reached through -/

namespace Body

variable {body : Body}

/-- The type of the next place does not depend on what the path belongs to; only
the wording of a fault does. -/
theorem stepType_congr {first second : Place} {type next : Ty} {step : Step}
    (typed : body.stepType first type step = .ok next) :
    body.stepType second type step = .ok next := by
  cases step with
  | deref => cases type <;> simp_all [stepType]
  | field index =>
      cases type with
      | struct name arguments =>
          rcases bind_eq_ok.mp typed with ⟨program, asked, typed⟩
          rcases bind_eq_ok.mp typed with ⟨fields, instantiated, typed⟩
          refine bind_eq_ok.mpr ⟨program, asked, bind_eq_ok.mpr ⟨fields, instantiated, ?_⟩⟩
          cases found : memberAt fields index <;> simp_all
      | unit | int | bool | borrow | missing => simp [stepType] at typed

theorem foldlM_stepType_congr {first second : Place} {path : List Step} {type last : Ty}
    (typed : path.foldlM (body.stepType first) type = .ok last) :
    path.foldlM (body.stepType second) type = .ok last := by
  induction path generalizing type with
  | nil => exact typed
  | cons step rest inductionHypothesis =>
      rw [List.foldlM_cons, bind_eq_ok] at typed ⊢
      rcases typed with ⟨next, stepped, remaining⟩
      exact ⟨next, stepType_congr stepped, inductionHypothesis remaining⟩

/-- A place has a type if the place before its last step has one that admits the
step. -/
theorem typeOf_extend {place : Place} {step : Step} {type : Ty}
    (typed : body.typeOf (place.extend step) = .ok type) :
    ∃ inner, body.typeOf place = .ok inner ∧ body.stepType place inner step = .ok type := by
  rcases bind_eq_ok.mp typed with ⟨rootType, rooted, walked⟩
  rw [Place.extend, List.foldlM_append, bind_eq_ok] at walked
  rcases walked with ⟨inner, front, stepped⟩
  rw [List.foldlM_cons, bind_eq_ok] at stepped
  rcases stepped with ⟨last, stepped, same⟩
  rw [← Except.ok.inj same]
  exact ⟨inner, bind_eq_ok.mpr ⟨rootType, rooted, foldlM_stepType_congr front⟩,
    stepType_congr stepped⟩

/-- Every place that a typed place is reached through has a type. -/
theorem exists_typeOf_of_mem_lineage {place outer : Place} (listed : outer ∈ place.lineage)
    (typed : ∃ type, body.typeOf place = .ok type) : ∃ type, body.typeOf outer = .ok type := by
  induction place using Place.extend_induction with
  | atLocal root =>
      rw [Place.lineage_ofLocal, List.mem_singleton] at listed
      rw [listed]
      exact typed
  | further place step inductionHypothesis =>
      rw [Place.lineage_extend, List.mem_cons] at listed
      rcases listed with rfl | further
      · exact typed
      · rcases typed with ⟨type, typed⟩
        rcases typeOf_extend typed with ⟨inner, innerTyped, _⟩
        exact inductionHypothesis further ⟨inner, innerTyped⟩

/-- A field with a type is a declared field of a declared structure. -/
theorem exists_fieldAt {parent : Place} {index : Int}
    (typed : ∃ type, body.typeOf (parent.field index) = .ok type) :
    ∃ decl field, body.structAt parent = .ok decl ∧ memberAt decl.fields index = some field := by
  rcases typed with ⟨type, typed⟩
  rcases typeOf_extend typed with ⟨inner, innerTyped, stepped⟩
  cases inner with
  | struct name arguments =>
      rcases bind_eq_ok.mp stepped with ⟨program, asked, stepped⟩
      rcases bind_eq_ok.mp stepped with ⟨fields, instantiated, selected⟩
      rcases bind_eq_ok.mp instantiated with ⟨decl, declared, renamed⟩
      have found : body.structAt parent = .ok decl :=
        bind_eq_ok.mpr ⟨_, innerTyped, bind_eq_ok.mpr ⟨program, asked, declared⟩⟩
      unfold StructDecl.fieldTypes at renamed
      split at renamed
      · rw [← Except.ok.inj renamed, memberAt_map] at selected
        cases there : memberAt decl.fields index with
        | none => simp [there] at selected
        | some field => exact ⟨decl, field, found, there⟩
      · simp at renamed
  | unit | int | bool | borrow | missing => simp [stepType] at stepped

theorem exists_structAt {parent : Place} {index : Int}
    (typed : ∃ type, body.typeOf (parent.field index) = .ok type) :
    ∃ decl, body.structAt parent = .ok decl := by
  rcases exists_fieldAt typed with ⟨decl, _, found, _⟩
  exact ⟨decl, found⟩

/-! ## Owners -/

/-- A place has an owner if and only if it is a field.  The parts of the owner
are its fields. -/
theorem owner?_eq_ok {place : Place} {found : Option Owner}
    (asked : body.owner? place = .ok found) :
    (found = none ∧ ∀ (parent : Place) index, place ≠ parent.field index) ∨
      ∃ (parent : Place) (index : Int) (parts : List Place),
        found = some { place := parent, parts } ∧
        place = parent.field index ∧ ∀ part ∈ parts, ∃ number, part = parent.field number := by
  induction place using Place.extend_induction with
  | atLocal root =>
      left
      rw [owner?, Place.parent?_ofLocal] at asked
      exact ⟨(Except.ok.inj asked).symm, fun parent index => Place.ofLocal_ne_extend root parent _⟩
  | further place step _ =>
      rw [owner?, Place.parent?_extend] at asked
      cases step with
      | deref =>
          left
          refine ⟨(Except.ok.inj asked).symm, fun parent index same => ?_⟩
          have steps := (Place.extend_inj.mp same).2
          simp at steps
      | field index =>
          right
          rcases bind_eq_ok.mp asked with ⟨decl, _, result⟩
          refine ⟨place, index, _, (Except.ok.inj result).symm, rfl, ?_⟩
          intro part isPart
          rcases List.mem_map.mp isPart with ⟨number, _, rfl⟩
          exact ⟨number, rfl⟩

theorem exists_owner? {place : Place} (typed : ∃ type, body.typeOf place = .ok type) :
    ∃ found, body.owner? place = .ok found := by
  induction place using Place.extend_induction with
  | atLocal root => exact ⟨none, rfl⟩
  | further place step _ =>
      rw [owner?, Place.parent?_extend]
      cases step with
      | deref => exact ⟨none, rfl⟩
      | field index =>
          rcases exists_structAt typed with ⟨decl, declared⟩
          exact ⟨_, bind_eq_ok.mpr ⟨decl, declared, rfl⟩⟩

/-! ## Tracked places -/

def InCode (body : Body) (place : Place) : Prop :=
  ∃ label instr, body.instr? label = some instr ∧ place ∈ instr.places

theorem inCode_of_target {label : Nat} {instr : Instr} (here : body.instr? label = some instr)
    {target : Place} (writes : instr.target? = some target) : body.InCode target :=
  ⟨label, instr, here, List.mem_append_right _ (by simp [writes])⟩

theorem inCode_iff {place : Place} :
    body.InCode place ↔
      ∃ stmt ∈ body.code, ∃ instr, stmt.instr = some instr ∧ place ∈ instr.places := by
  constructor
  · rintro ⟨label, instr, here, listed⟩
    rcases instr?_eq_some.mp here with ⟨stmt, there, present⟩
    exact ⟨stmt, List.mem_of_getElem? there, instr, present, listed⟩
  · rintro ⟨stmt, inBody, instr, present, listed⟩
    rcases List.mem_iff_getElem?.mp inBody with ⟨label, there⟩
    exact ⟨label, instr, instr?_eq_some.mpr ⟨stmt, there, present⟩, listed⟩

def PlacesTyped (body : Body) : Prop :=
  ∀ place, body.InCode place → ∃ type, body.typeOf place = .ok type

def placesTyped (body : Body) : Bool :=
  body.code.all fun stmt => stmt.instr.all fun instr => instr.places.all fun place =>
    (body.typeOf place).toBool

theorem placesTyped_of_test (tested : body.placesTyped = true) : body.PlacesTyped := by
  intro place inCode
  rcases inCode_iff.mp inCode with ⟨stmt, inBody, instr, present, listed⟩
  have ofStmt := List.all_eq_true.mp tested stmt inBody
  rw [present] at ofStmt
  have ofPlace := List.all_eq_true.mp ofStmt place listed
  cases typed : body.typeOf place with
  | ok type => exact ⟨type, rfl⟩
  | error fault => simp [typed, Except.toBool] at ofPlace

theorem nodup_trackedPlaces {tracked : List Place} (found : body.trackedPlaces = .ok tracked) :
    tracked.Nodup := by
  rcases bind_eq_ok.mp found with ⟨_, _, result⟩
  rw [← Except.ok.inj result]
  exact nodup_eraseDups _

/-- Whatever a place in the code is reached through is tracked, and so are the
fields next to it. -/
theorem mem_tracked_of_inCode {tracked : List Place} (found : body.trackedPlaces = .ok tracked)
    {place outer : Place} (inCode : body.InCode place) (listed : outer ∈ place.lineage) :
    outer ∈ tracked ∧ ∀ owner, body.owner? outer = .ok (some owner) →
      ∀ part ∈ owner.parts, part ∈ tracked := by
  rcases inCode_iff.mp inCode with ⟨stmt, inBody, instr, present, inInstr⟩
  rcases bind_eq_ok.mp found with ⟨perStmt, mapped, result⟩
  rcases exists_of_mapM mapped inBody with ⟨ofStmt, listedStmt, tracedStmt⟩
  unfold trackedIn at tracedStmt
  rw [present] at tracedStmt
  rcases bind_eq_ok.mp tracedStmt with ⟨perPlace, mappedPlaces, resultStmt⟩
  rcases exists_of_mapM mappedPlaces inInstr with ⟨ofPlace, listedPlace, tracedPlace⟩
  rcases bind_eq_ok.mp tracedPlace with ⟨perOuter, mappedOuter, resultPlace⟩
  rcases exists_of_mapM mappedOuter listed with ⟨near, listedNear, tracedNear⟩
  have kept : ∀ member ∈ near, member ∈ tracked := by
    intro member isNear
    rw [← Except.ok.inj result, List.mem_eraseDups]
    apply List.mem_append_right
    refine List.mem_flatten.mpr ⟨ofStmt, listedStmt, ?_⟩
    rw [← Except.ok.inj resultStmt]
    refine List.mem_flatten.mpr ⟨ofPlace, listedPlace, ?_⟩
    rw [← Except.ok.inj resultPlace]
    exact List.mem_flatten.mpr ⟨near, listedNear, isNear⟩
  rcases bind_eq_ok.mp tracedNear with ⟨found, asked, resultNear⟩
  have whole := Except.ok.inj resultNear
  constructor
  · apply kept
    rw [← whole]
    exact List.mem_cons_self
  · intro owner isOwner part isPart
    apply kept
    rw [← whole, Except.ok.inj (asked.symm.trans isOwner)]
    exact List.mem_cons_of_mem _ isPart

/-- Nothing is tracked but whole locals, what the places in the code are reached
through, and the fields next to those. -/
theorem exists_origin_of_tracked {tracked : List Place} (found : body.trackedPlaces = .ok tracked)
    {place : Place} (listed : place ∈ tracked) :
    (∃ position < body.locals.length, place = .ofLocal (position : Nat)) ∨
      ∃ origin, body.InCode origin ∧ ∃ outer ∈ origin.lineage, place = outer ∨
        ∃ owner, body.owner? outer = .ok (some owner) ∧ place ∈ owner.parts := by
  rcases bind_eq_ok.mp found with ⟨perStmt, mapped, result⟩
  rw [← Except.ok.inj result, List.mem_eraseDups, List.mem_append] at listed
  rcases listed with whole | inStmts
  · rcases List.mem_map.mp whole with ⟨position, inRange, rfl⟩
    exact .inl ⟨position, List.mem_range.mp inRange, rfl⟩
  · rcases List.mem_flatten.mp inStmts with ⟨ofStmt, listedStmt, inStmt⟩
    rcases exists_of_mem_mapM mapped listedStmt with ⟨stmt, inBody, traced⟩
    unfold trackedIn at traced
    cases present : stmt.instr with
    | none =>
        rw [present] at traced
        rw [← Except.ok.inj traced] at inStmt
        exact absurd inStmt List.not_mem_nil
    | some instr =>
        rw [present] at traced
        rcases bind_eq_ok.mp traced with ⟨perPlace, mappedPlaces, resultStmt⟩
        rw [← Except.ok.inj resultStmt] at inStmt
        rcases List.mem_flatten.mp inStmt with ⟨ofPlace, listedPlace, inPlace⟩
        rcases exists_of_mem_mapM mappedPlaces listedPlace with ⟨origin, inInstr, tracedPlace⟩
        rcases bind_eq_ok.mp tracedPlace with ⟨perOuter, mappedOuter, resultPlace⟩
        rw [← Except.ok.inj resultPlace] at inPlace
        rcases List.mem_flatten.mp inPlace with ⟨near, listedNear, inNear⟩
        rcases exists_of_mem_mapM mappedOuter listedNear with ⟨outer, inLineage, tracedOuter⟩
        rcases bind_eq_ok.mp tracedOuter with ⟨owner, asked, resultNear⟩
        rw [← Except.ok.inj resultNear, List.mem_cons] at inNear
        have inCode := inCode_iff.mpr ⟨stmt, inBody, instr, present, inInstr⟩
        refine .inr ⟨origin, inCode, outer, inLineage, inNear.imp_right ?_⟩
        intro sibling
        cases owner with
        | none => exact absurd sibling List.not_mem_nil
        | some owner => exact ⟨owner, asked, sibling⟩

/-- Tracked places are rooted at locals of the body. -/
theorem InOrder.root_inRange {program : Program} (inOrder : body.InOrder program)
    {tracked : List Place} (found : body.trackedPlaces = .ok tracked) {place : Place}
    (listed : place ∈ tracked) : inRange body.locals.length place.root = true := by
  rcases exists_origin_of_tracked found listed with
    ⟨position, below, rfl⟩ | ⟨origin, ⟨label, instr, here, inInstr⟩, outer, inLineage, traced⟩
  · exact (inRange_iff _ _).mpr ⟨position, rfl, below⟩
  · have rooted := (inOrder.instrInOrder here).places origin inInstr
    rw [Place.mem_lineage_iff, Place.isWithin_iff] at inLineage
    rw [inLineage.1] at rooted
    rcases traced with rfl | ⟨owner, asked, isPart⟩
    · exact rooted
    · rcases owner?_eq_ok asked with ⟨isNone, _⟩ | ⟨parent, index, parts, isOwner, rfl, fields⟩
      · exact absurd isNone (Option.some_ne_none _)
      · rcases Option.some.inj isOwner with rfl
        rcases fields place isPart with ⟨number, rfl⟩
        exact rooted

theorem InOrder.exists_rootKinds {program : Program} (inOrder : body.InOrder program)
    {tracked : List Place} (found : body.trackedPlaces = .ok tracked) :
    ∃ kinds, body.rootKinds tracked = .ok kinds := by
  refine mapM_ok_of_forall fun place listed => ?_
  rcases (inRange_iff _ _).mp (inOrder.root_inRange found listed) with ⟨position, isRoot, below⟩
  have declared : memberAt body.locals place.root = some body.locals[position] := by
    rw [isRoot, memberAt_natCast, List.getElem?_eq_getElem below]
  exact ⟨_, bind_eq_ok.mpr ⟨_, requireAt_eq_ok.mpr declared, rfl⟩⟩

/-- The tracked places of a body with typed places can be determined. -/
theorem PlacesTyped.exists_trackedPlaces (typed : body.PlacesTyped) :
    ∃ tracked, body.trackedPlaces = .ok tracked := by
  have perStmt : ∀ stmt ∈ body.code, ∃ places, body.trackedIn stmt = .ok places := by
    intro stmt inBody
    unfold trackedIn
    cases present : stmt.instr with
    | none => exact ⟨[], rfl⟩
    | some instr =>
        have perPlace : ∀ place ∈ instr.places, ∃ places, body.trackedWith place = .ok places := by
          intro place inInstr
          have placeTyped := typed place (inCode_iff.mpr ⟨stmt, inBody, instr, present, inInstr⟩)
          have perOuter : ∀ outer ∈ place.lineage, ∃ near, body.withSiblings outer = .ok near := by
            intro outer listed
            rcases exists_owner? (exists_typeOf_of_mem_lineage listed placeTyped) with
              ⟨found, asked⟩
            exact ⟨_, bind_eq_ok.mpr ⟨found, asked, rfl⟩⟩
          rcases mapM_ok_of_forall perOuter with ⟨near, mapped⟩
          exact ⟨_, bind_eq_ok.mpr ⟨near, mapped, rfl⟩⟩
        rcases mapM_ok_of_forall perPlace with ⟨places, mapped⟩
        exact ⟨_, bind_eq_ok.mpr ⟨places, mapped, rfl⟩⟩
  rcases mapM_ok_of_forall perStmt with ⟨places, mapped⟩
  exact ⟨_, bind_eq_ok.mpr ⟨places, mapped, rfl⟩⟩

end Body
end BorrowChecker
