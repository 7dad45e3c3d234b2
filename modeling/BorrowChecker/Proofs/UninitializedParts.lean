import BorrowChecker.Initialization.Uninitialized
import BorrowChecker.Proofs.Propagation
import BorrowChecker.Proofs.TrackedPlaces

namespace BorrowChecker

/-!
What an event does to the places within a structure.

Writing a place may make the structures around it count as initialized.  This
never touches a place without tracked fields, so such a place is affected by an
event in one of two ways only: it is lost or it is gained.  A structure, on the
other hand, is never uninitialized without one of its tracked fields being so.
The argument follows the climb from a written place to its owners: after each
step, the next owner is the only place that may have lost its last uninitialized
field, and it is the one the climb looks at next.
-/

/-! ## Numbers of tracked places -/

section Numbers

variable {tracked : List Place}

theorem getElem?_placeNumber {place : Place} (listed : place ∈ tracked) :
    tracked[placeNumber tracked place]? = some place := by
  have below : tracked.idxOf place < tracked.length := List.idxOf_lt_length_of_mem listed
  unfold placeNumber
  rw [List.getElem?_eq_getElem below, List.getElem_idxOf below]

theorem placeNumber_of_getElem? (distinct : tracked.Nodup) {position : Nat} {place : Place}
    (found : tracked[position]? = some place) : placeNumber tracked place = position := by
  rcases List.getElem?_eq_some_iff.mp found with ⟨below, rfl⟩
  exact distinct.idxOf_getElem position below

private theorem eq_of_placeNumber_eq {first second : Place} (listed : first ∈ tracked)
    (same : placeNumber tracked first = placeNumber tracked second) : first = second := by
  have below : placeNumber tracked first < tracked.length := List.idxOf_lt_length_of_mem listed
  by_cases alsoListed : second ∈ tracked
  · have atFirst := getElem?_placeNumber listed
    rw [same, getElem?_placeNumber alsoListed] at atFirst
    exact (Option.some.inj atFirst).symm
  · have outside : placeNumber tracked second = tracked.length := List.idxOf_eq_length alsoListed
    omega

theorem placeNumber_ne {first second : Place} (listed : second ∈ tracked)
    (different : first ≠ second) : placeNumber tracked first ≠ placeNumber tracked second :=
  fun same => different (eq_of_placeNumber_eq listed same.symm).symm

theorem contains_regionOf {place : Place} (listed : place ∈ tracked) (outer : Place) :
    (regionOf tracked outer).contains (placeNumber tracked place) = place.isWithin outer := by
  have below : placeNumber tracked place < tracked.length := List.idxOf_lt_length_of_mem listed
  unfold regionOf
  rw [IndexSet.contains_ofList, Bool.eq_iff_iff]
  simp only [below, decide_true, Bool.true_and, List.contains_iff_mem, List.mem_filter,
    List.mem_range, getElem?_placeNumber listed, Option.any_some, true_and]

end Numbers

def Owner.numbered (tracked : List Place) (owner : Owner) : NumberedOwner :=
  { place := placeNumber tracked owner.place
    parts := owner.parts.map (placeNumber tracked) }

/-! ## The owners of a written place -/

/-- The owners of a place, innermost first: each place is a field of the next
one, and the last is not a field.  The parts of an owner are tracked fields of
it. -/
inductive OwnerChain (tracked : List Place) : Place → List Owner → Prop where
  | ended {place : Place} (noField : ∀ (parent : Place) index, place ≠ parent.field index) :
      OwnerChain tracked place []
  | within {parent : Place} {index : Int} {parts : List Place} {outer : List Owner}
      (listed : parent.field index ∈ tracked)
      (fields : ∀ part ∈ parts, part ∈ tracked ∧ ∃ number, part = parent.field number)
      (rest : OwnerChain tracked parent outer) :
      OwnerChain tracked (parent.field index) ({ place := parent, parts } :: outer)

namespace Body

variable {body : Body} {tracked : List Place}

/-- The owners of the places that a place in the code is reached through. -/
theorem ownerChain_of_ownersAlong (found : body.trackedPlaces = .ok tracked) {place : Place}
    (inCode : body.InCode place) {outer : Place} (listed : outer ∈ place.lineage)
    {owners : List Owner} (along : body.ownersAlong outer.lineage = .ok owners) :
    OwnerChain tracked outer owners := by
  induction outer using Place.extend_induction generalizing owners with
  | atLocal root =>
      have none : owners = [] := (Except.ok.inj along).symm
      rw [none]
      exact .ended fun parent index => Place.ofLocal_ne_extend root parent _
  | further outer step inductionHypothesis =>
      rw [Place.lineage_extend] at along
      rcases bind_eq_ok.mp along with ⟨owner, asked, along⟩
      rcases owner?_eq_ok asked with ⟨rfl, noField⟩ | ⟨parent, index, parts, rfl, same, fields⟩
      · rw [← Except.ok.inj along]
        exact .ended noField
      · rcases bind_eq_ok.mp along with ⟨rest, alongRest, result⟩
        rw [← Except.ok.inj result]
        have sameParent : outer = parent := (Place.extend_inj.mp same).1
        have inLineage : outer ∈ place.lineage := by
          rw [Place.mem_lineage_iff] at listed ⊢
          exact Place.isWithin_trans listed
            ((Place.isWithin_iff _ _).mpr ⟨rfl, List.prefix_append _ _⟩)
        have chain := inductionHypothesis inLineage alongRest
        rcases mem_tracked_of_inCode found inCode listed with ⟨isTracked, siblings⟩
        rw [sameParent] at chain
        rw [same] at isTracked ⊢
        exact .within isTracked
          (fun part isPart => ⟨siblings _ asked part isPart, fields part isPart⟩)
          chain

end Body

/-! ## Places without tracked fields -/

namespace Effect

variable {tracked : List Place}

/-- The climb to the owners leaves places without tracked fields alone. -/
theorem contains_settle {place part : Place} {owners : List Owner}
    (chain : OwnerChain tracked place owners) (listed : part ∈ tracked)
    (noFields : ∀ index, part.field index ∉ tracked) (set : IndexSet tracked.length) :
    (settle set (owners.map (Owner.numbered tracked))).contains (placeNumber tracked part) =
      set.contains (placeNumber tracked part) := by
  induction chain generalizing set with
  | ended => rfl
  | @within parent index parts outer isTracked _ _ inductionHypothesis =>
      rw [List.map_cons, settle]
      split
      · rfl
      · rw [inductionHypothesis, IndexSet.contains_erase]
        have different : placeNumber tracked parent ≠ placeNumber tracked part := by
          apply placeNumber_ne listed
          rintro rfl
          exact noFields index isTracked
        simp [Owner.numbered, different]

end Effect

/-! ## Structures -/

private theorem exists_path_bound (places : List Place) :
    ∃ bound, ∀ place ∈ places, place.path.length ≤ bound := by
  induction places with
  | nil => exact ⟨0, by simp⟩
  | cons first rest inductionHypothesis =>
      rcases inductionHypothesis with ⟨bound, bounded⟩
      refine ⟨max first.path.length bound, fun place listed => ?_⟩
      rcases List.mem_cons.mp listed with rfl | later
      · exact Nat.le_max_left _ _
      · exact Nat.le_trans (bounded place later) (Nat.le_max_right _ _)

/-- Every uninitialized place with tracked fields has an uninitialized one among
them. -/
def Descends (tracked : List Place) (set : IndexSet tracked.length) : Prop :=
  ∀ place ∈ tracked, (∃ index, place.field index ∈ tracked) →
    set.contains (placeNumber tracked place) = true →
      ∃ index, place.field index ∈ tracked ∧
        set.contains (placeNumber tracked (place.field index)) = true

namespace Descends

variable {tracked : List Place}

theorem union {left right : IndexSet tracked.length} (ofLeft : Descends tracked left)
    (ofRight : Descends tracked right) : Descends tracked (left.union right) := by
  intro place listed hasFields member
  rw [IndexSet.contains_union, Bool.or_eq_true] at member
  rcases member with inLeft | inRight
  · rcases ofLeft place listed hasFields inLeft with ⟨index, isTracked, inner⟩
    exact ⟨index, isTracked, IndexSet.Within.union_left left right _ inner⟩
  · rcases ofRight place listed hasFields inRight with ⟨index, isTracked, inner⟩
    exact ⟨index, isTracked, IndexSet.Within.union_right left right _ inner⟩

theorem region (outer : Place) : Descends tracked (regionOf tracked outer) := by
  intro place listed hasFields member
  rcases hasFields with ⟨index, isTracked⟩
  refine ⟨index, isTracked, ?_⟩
  rw [contains_regionOf listed] at member
  rw [contains_regionOf isTracked]
  exact Place.isWithin_trans (place.field_isWithin index) member

/-- The climb to the owners restores the property if the owner of the written
place is the only one that lacks it. -/
theorem settle {place : Place} {owners : List Owner} (chain : OwnerChain tracked place owners)
    (set : IndexSet tracked.length)
    (except : ∀ other ∈ tracked, (∃ index, other.field index ∈ tracked) →
      set.contains (placeNumber tracked other) = true →
        (∃ index, other.field index ∈ tracked ∧
          set.contains (placeNumber tracked (other.field index)) = true) ∨
        ∃ index, other.field index = place) :
    Descends tracked (Effect.settle set (owners.map (Owner.numbered tracked))) := by
  induction chain generalizing set with
  | @ended place noField =>
      intro other listed hasFields member
      rcases except other listed hasFields member with inner | ⟨index, isField⟩
      · exact inner
      · exact absurd isField.symm (noField other index)
  | @within parent index parts outer isTracked fields _ inductionHypothesis =>
      rw [List.map_cons, Effect.settle]
      split
      · rename_i found
        intro other listed hasFields member
        rcases except other listed hasFields member with inner | ⟨otherIndex, isField⟩
        · exact inner
        · have same : other = parent := (Place.field_inj.mp isField).1
          simp only [Owner.numbered, List.any_map, List.any_eq_true] at found
          rcases found with ⟨part, isPart, uninitialized⟩
          rcases fields part isPart with ⟨partTracked, number, rfl⟩
          rw [same]
          exact ⟨number, partTracked, uninitialized⟩
      · apply inductionHypothesis
        intro other listed hasFields member
        have numbers : (Owner.numbered tracked { place := parent, parts }).place =
            placeNumber tracked parent := rfl
        rw [numbers, IndexSet.contains_erase, Bool.and_eq_true, decide_eq_true_eq] at member
        rcases member with ⟨member, kept⟩
        rcases except other listed hasFields member with ⟨inner, innerTracked, present⟩ | isOwner
        · by_cases erased : other.field inner = parent
          · exact .inr ⟨inner, erased⟩
          · refine .inl ⟨inner, innerTracked, ?_⟩
            have different := placeNumber_ne innerTracked (Ne.symm erased)
            rw [numbers, IndexSet.contains_erase, Bool.and_eq_true, decide_eq_true_eq]
            exact ⟨present, different⟩
        · rcases isOwner with ⟨otherIndex, isField⟩
          rw [(Place.field_inj.mp isField).1] at kept
          exact absurd rfl kept

/-- Writing a place keeps the property. -/
theorem write {place : Place} {owners : List Owner} (chain : OwnerChain tracked place owners)
    {set : IndexSet tracked.length} (descends : Descends tracked set) :
    Descends tracked (Effect.settle (set.diff (regionOf tracked place))
      (owners.map (Owner.numbered tracked))) := by
  apply settle chain
  intro other listed hasFields member
  rw [IndexSet.contains_diff, contains_regionOf listed, Bool.and_eq_true,
    Bool.not_eq_true'] at member
  rcases member with ⟨member, outside⟩
  rcases descends other listed hasFields member with ⟨index, isTracked, inner⟩
  by_cases written : (other.field index).isWithin place = true
  · rcases Place.isWithin_of_field_isWithin written with isField | inside
    · exact .inr ⟨index, isField.symm⟩
    · exact absurd (inside.symm.trans outside) (by simp)
  · refine .inl ⟨index, isTracked, ?_⟩
    rw [IndexSet.contains_diff, contains_regionOf isTracked, inner]
    simpa using written

/-- In the storage of an uninitialized place there is an uninitialized one without
tracked fields. -/
theorem exists_stored_leaf {set : IndexSet tracked.length} (descends : Descends tracked set)
    {place : Place} (listed : place ∈ tracked)
    (member : set.contains (placeNumber tracked place) = true) :
    ∃ part ∈ tracked, part.isStoredIn place = true ∧ (∀ index, part.field index ∉ tracked) ∧
      set.contains (placeNumber tracked part) = true := by
  rcases exists_path_bound tracked with ⟨bound, bounded⟩
  induction room : bound - place.path.length generalizing place with
  | zero =>
      refine ⟨place, listed, place.isStoredIn_refl, fun index isTracked => ?_, member⟩
      have longer := bounded _ isTracked
      have here := bounded _ listed
      simp only [Place.field, Place.extend, List.length_append, List.length_singleton] at longer
      omega
  | succ rest inductionHypothesis =>
      by_cases hasFields : ∃ index, place.field index ∈ tracked
      · rcases descends place listed hasFields member with ⟨index, isTracked, inner⟩
        have shorter : bound - (place.field index).path.length = rest := by
          simp only [Place.field, Place.extend, List.length_append, List.length_singleton]
          omega
        rcases inductionHypothesis isTracked inner shorter with
          ⟨part, partTracked, stored, noFields, present⟩
        exact ⟨part, partTracked, Place.isStoredIn_trans stored (place.field_isStoredIn index),
          noFields, present⟩
      · exact ⟨place, listed, place.isStoredIn_refl, fun index isTracked =>
          hasFields ⟨index, isTracked⟩, member⟩

/-- Below an uninitialized place there is an uninitialized one without tracked
fields. -/
theorem exists_leaf {set : IndexSet tracked.length} (descends : Descends tracked set)
    {place : Place} (listed : place ∈ tracked)
    (member : set.contains (placeNumber tracked place) = true) :
    ∃ part ∈ tracked, part.isWithin place = true ∧ (∀ index, part.field index ∉ tracked) ∧
      set.contains (placeNumber tracked part) = true := by
  rcases descends.exists_stored_leaf listed member with ⟨part, partTracked, stored, leaf⟩
  exact ⟨part, partTracked, Place.isWithin_of_isStoredIn stored, leaf⟩

end Descends
end BorrowChecker
