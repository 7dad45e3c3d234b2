import BorrowChecker.Proofs.PlaceKeys
import BorrowChecker.Proofs.UnreachablePlaces

namespace BorrowChecker

/-!
The index of tracked places.

The tracked places are the least collection that contains the locals and the places in
the code and is closed in two directions: towards the places that a place is reached
through, and from a field to the fields next to it.  They are registered under their
keys, and with each of them the numbers of the tracked places within it.  Everything
that the events of an instruction concern is registered, so no lookup ever misses, and
the effects found by lookup are those that the analysis applies.
-/

/-! ## The closure -/

namespace Body

variable {body : Body} {tracked : List Place}

/-- The places that have to be tracked. -/
inductive Tracks (body : Body) : Place → Prop where
  | whole {position : Nat} (below : position < body.locals.length) :
      Tracks body (.ofLocal position)
  | mentioned {place : Place} (inCode : body.InCode place) : Tracks body place
  | outer {place outer : Place} (tracks : Tracks body place)
      (inside : place.isWithin outer = true) : Tracks body outer
  | sibling {parent : Place} {index : Int} {decl : StructDecl} {position : Nat}
      (tracks : Tracks body (parent.field index)) (declared : body.structAt parent = .ok decl)
      (below : position < decl.fields.length) : Tracks body (parent.field position)

/-- Whatever a tracked place is reached through is tracked. -/
theorem mem_tracked_of_part (found : body.trackedPlaces = .ok tracked) {place outer : Place}
    (listed : place ∈ tracked) (inside : place.isWithin outer = true) : outer ∈ tracked := by
  rcases (mem_tracked_iff found place).mp listed with
    ⟨position, below, rfl⟩ | ⟨origin, inCode, within⟩ |
      ⟨origin, parent, index, decl, position, below, inCode, within, declared, rfl⟩
  · rw [(Place.isWithin_ofLocal_iff _ outer).mp inside]
    exact listed
  · exact (mem_tracked_iff found outer).mpr
      (.inr (.inl ⟨origin, inCode, Place.isWithin_trans within inside⟩))
  · rcases Place.isWithin_of_field_isWithin inside with rfl | further
    · exact listed
    · have around := Place.isWithin_trans (parent.field_isWithin index) further
      exact (mem_tracked_iff found outer).mpr
        (.inr (.inl ⟨origin, inCode, Place.isWithin_trans within around⟩))

/-- The declared fields next to a tracked field are tracked. -/
theorem field_mem_tracked (found : body.trackedPlaces = .ok tracked) {parent : Place}
    {index : Int} (listed : parent.field index ∈ tracked) {decl : StructDecl}
    (declared : body.structAt parent = .ok decl) {position : Nat}
    (below : position < decl.fields.length) : parent.field position ∈ tracked := by
  refine (mem_tracked_iff found _).mpr (.inr (.inr ?_))
  rcases (mem_tracked_iff found _).mp listed with
    ⟨root, _, whole⟩ | ⟨origin, inCode, within⟩ |
      ⟨origin, sameParent, origIndex, _, _, _, inCode, within, _, same⟩
  · exact absurd whole.symm (Place.ofLocal_ne_extend _ parent _)
  · exact ⟨origin, parent, index, decl, position, below, inCode, within, declared, rfl⟩
  · rcases (Place.field_inj.mp same).1 with rfl
    exact ⟨origin, parent, origIndex, decl, position, below, inCode, within, declared, rfl⟩

/-- The tracked places are the closure. -/
theorem mem_tracked_iff_tracks (found : body.trackedPlaces = .ok tracked) (place : Place) :
    place ∈ tracked ↔ body.Tracks place := by
  constructor
  · intro listed
    rcases (mem_tracked_iff found place).mp listed with
      ⟨position, below, rfl⟩ | ⟨origin, inCode, within⟩ |
        ⟨origin, parent, index, decl, position, below, inCode, within, declared, rfl⟩
    · exact .whole below
    · exact .outer (.mentioned inCode) within
    · exact .sibling (.outer (.mentioned inCode) within) declared below
  · intro tracks
    induction tracks with
    | whole below => exact ofLocal_mem_tracked found below
    | @mentioned place inCode =>
        exact (mem_tracked_iff found place).mpr (.inr (.inl ⟨place, inCode, place.isWithin_refl⟩))
    | outer _ inside inductionHypothesis =>
      exact mem_tracked_of_part found inductionHypothesis inside
    | sibling _ declared below inductionHypothesis =>
        exact field_mem_tracked found inductionHypothesis declared below

end Body

/-! ## Lookups -/

section Lookups

variable {tracked : List Place}

/-- The number that is registered under the key of a place. -/
def placeId? (tracked : List Place) (place : Place) : Option Nat :=
  tracked.findIdx? fun other => other.key == place.key

/-- A key leads to the position of its place, and to nothing if the place is not
tracked. -/
theorem placeId?_eq_some_iff (distinct : tracked.Nodup) (place : Place) (position : Nat) :
    placeId? tracked place = some position ↔ tracked[position]? = some place := by
  have sameKey : ∀ other : Place, (other.key == place.key) = true ↔ other = place := fun other =>
    ⟨fun same => Place.eq_of_key_eq (beq_iff_eq.mp same),
      fun same => by rw [same, beq_self_eq_true]⟩
  exact findIdx?_eq_some_iff_of_nodup distinct sameKey position

theorem placeId?_of_mem (distinct : tracked.Nodup) {place : Place} (listed : place ∈ tracked) :
    placeId? tracked place = some (placeNumber tracked place) :=
  (placeId?_eq_some_iff distinct place _).mpr (getElem?_placeNumber listed)

def numbersWithin (tracked : List Place) (outer : Place) : List Nat :=
  (List.range tracked.length).filter fun number =>
    tracked[number]?.any fun inner => inner.isWithin outer

private theorem increasing_numbersWithin (outer : Place) :
    (numbersWithin tracked outer).Pairwise (· < ·) :=
  List.pairwise_lt_range.filter _

private theorem mem_numbersWithin_iff (outer : Place) (number : Nat) :
    number ∈ numbersWithin tracked outer ↔
      ∃ inner, tracked[number]? = some inner ∧ inner.isWithin outer = true := by
  rw [numbersWithin, List.mem_filter, List.mem_range, Option.any_eq_true]
  constructor
  · rintro ⟨_, inner, here, inside⟩
    exact ⟨inner, here, inside⟩
  · rintro ⟨inner, here, inside⟩
    exact ⟨(List.getElem?_eq_some_iff.mp here).1, inner, here, inside⟩

theorem getElem?_subplaceNumbers {position : Nat} {outer : Place}
    (here : tracked[position]? = some outer) :
    (subplaceNumbers tracked)[position]? = some (numbersWithin tracked outer) := by
  rw [subplaceNumbers, List.getElem?_map, here]
  rfl

/-- The tracked places within a place, by way of its number. -/
def regionById? (tracked : List Place) (place : Place) : Option (IndexSet tracked.length) := do
  let position ← placeId? tracked place
  let numbers ← (subplaceNumbers tracked)[position]?
  return IndexSet.ofList tracked.length numbers

theorem regionById?_of_mem (distinct : tracked.Nodup) {place : Place} (listed : place ∈ tracked) :
    regionById? tracked place = some (regionOf tracked place) := by
  rw [regionById?, placeId?_of_mem distinct listed, Option.bind_eq_bind, Option.bind_some,
    getElem?_subplaceNumbers (getElem?_placeNumber listed)]
  rfl

def Owner.numberedById? (tracked : List Place) (owner : Owner) : Option NumberedOwner := do
  let place ← placeId? tracked owner.place
  let parts ← owner.parts.mapM (placeId? tracked)
  return { place, parts }

/-- The effect of an event if every place it concerns has to be looked up. -/
def Event.effectById? (tracked : List Place) : Event → Option (Effect tracked.length)
  | deinit place => do return .deinit (← regionById? tracked place)
  | init place owners => do
      return .init (← regionById? tracked place)
        (← owners.mapM (Owner.numberedById? tracked))

/-- A structure is tracked together with its parts. -/
def Owner.Tracked (tracked : List Place) (owner : Owner) : Prop :=
  owner.place ∈ tracked ∧ ∀ part ∈ owner.parts, part ∈ tracked

/-- Every place that an event concerns is tracked. -/
def Event.Tracked (tracked : List Place) : Event → Prop
  | deinit place => place ∈ tracked
  | init place owners => place ∈ tracked ∧ ∀ owner ∈ owners, owner.Tracked tracked

theorem Owner.numberedById?_eq (distinct : tracked.Nodup) {owner : Owner}
    (known : owner.Tracked tracked) :
    owner.numberedById? tracked = some (owner.numbered tracked) := by
  rw [numberedById?, placeId?_of_mem distinct known.1,
    mapM_eq_some_map fun part isPart => placeId?_of_mem distinct (known.2 part isPart)]
  rfl

/-- If all it concerns is tracked, an event has the effect that the analysis applies. -/
theorem Event.effectById?_eq (distinct : tracked.Nodup) {event : Event}
    (known : event.Tracked tracked) :
    event.effectById? tracked = some (event.effect tracked) := by
  cases event with
  | deinit place =>
      rw [effectById?, regionById?_of_mem distinct known]
      rfl
  | init place owners =>
      rw [effectById?, regionById?_of_mem distinct known.1,
        mapM_eq_some_map fun owner listed => Owner.numberedById?_eq distinct (known.2 owner listed)]
      rfl

end Lookups

/-! ## What instructions look up -/

namespace Body

variable {body : Body} {tracked : List Place}

/-- The events that an instruction can make.  They are told one by one, because an
instruction may get stuck on an operand after it has moved others. -/
inductive Makes (body : Body) (instr : Instr) : Event → Prop where
  | move {place : Place} (operand : place ∈ instr.movable) : Makes body instr (.deinit place)
  | surrender {position : Int} (given : position ∈ instr.surrendered) :
      Makes body instr (.deinit (.ofLocal position))
  | write {target : Place} {owners : List Owner} (writes : instr.target? = some target)
      (along : body.ownersAlong target.lineage = .ok owners) :
      Makes body instr (.init target owners)

private theorem makes_of_events {instr : Instr} {events : List Event}
    (asked : body.events instr = .ok events) {event : Event} (listed : event ∈ events) :
    body.Makes instr event := by
  rcases events_eq_losses asked with ⟨written, writes, rfl⟩
  rcases List.mem_append.mp listed with isLoss | isWrite
  · rcases List.mem_map.mp isLoss with ⟨place, lost, rfl⟩
    rcases mem_losses_iff.mp lost with ⟨operand, _⟩ | ⟨position, given, rfl⟩
    · exact .move operand
    · exact .surrender given
  · rcases exists_of_mem_mapM writes isWrite with ⟨target, isTarget, initialized⟩
    rcases bind_eq_ok.mp initialized with ⟨owners, along, result⟩
    rw [← Except.ok.inj result]
    exact .write (Option.mem_toList.mp isTarget) along

/-- The structures around a written place are tracked with all their fields. -/
theorem tracked_of_ownerChain (found : body.trackedPlaces = .ok tracked) {place : Place}
    {owners : List Owner} (chain : OwnerChain tracked place owners) :
    ∀ owner ∈ owners, owner.Tracked tracked := by
  induction chain with
  | ended => exact fun _ listed => absurd listed List.not_mem_nil
  | @within parent index parts outer listed fields _ inductionHypothesis =>
      refine List.forall_mem_cons.mpr ⟨⟨?_, fun part isPart => (fields part isPart).1⟩,
        inductionHypothesis⟩
      exact mem_tracked_of_part found listed (parent.field_isWithin index)

/-- All that an event of the code concerns is tracked. -/
theorem Makes.concerns_tracked {program : Program} (inOrder : body.InOrder program)
    (found : body.trackedPlaces = .ok tracked) {label : Nat} {instr : Instr}
    (here : body.instr? label = some instr) {event : Event} (makes : body.Makes instr event) :
    event.Tracked tracked := by
  cases makes with
  | @move place operand =>
      have inCode : body.InCode place := ⟨label, instr, here, Instr.mem_places_of_movable operand⟩
      exact (mem_tracked_iff_tracks found place).mpr (.mentioned inCode)
  | @surrender position given =>
      have isLost : .ofLocal position ∈ body.losses instr :=
        mem_losses_iff.mpr (.inr ⟨position, given, rfl⟩)
      exact mem_tracked_of_mentioned inOrder found here (mem_mentioned_of_loses isLost)
        (Place.isWithin_refl _)
  | @write target owners writes along =>
      have inCode := inCode_of_target here writes
      refine ⟨(mem_tracked_iff_tracks found target).mpr (.mentioned inCode), ?_⟩
      exact tracked_of_ownerChain found (ownerChain_of_ownersAlong found inCode
        ((Place.mem_lineage_iff target target).mpr target.isWithin_refl) along)

/-- The places of a typed body can be indexed.  The index lists exactly the places of
the closure, each once, registers them under their positions and knows which lie within
which.  Whatever an instruction looks up is there: each event it can make has, by
lookup, the effect that the analysis applies. -/
theorem trackedPlaces_indexed_exactly (valid : body.IsValid) (typed : body.PlacesTyped) :
    ∃ tracked, body.trackedPlaces = .ok tracked ∧ tracked.Nodup ∧
      (∀ place, place ∈ tracked ↔ body.Tracks place) ∧
      (∀ place (position : Nat),
        placeId? tracked place = some position ↔ tracked[position]? = some place) ∧
      (subplaceNumbers tracked).length = tracked.length ∧
      (∀ (position : Nat) outer, tracked[position]? = some outer →
        ∃ numbers, (subplaceNumbers tracked)[position]? = some numbers ∧
          numbers.Pairwise (· < ·) ∧
          ∀ number, number ∈ numbers ↔
            ∃ inner, tracked[number]? = some inner ∧ inner.isWithin outer = true) ∧
      ∀ label instr, body.instr? label = some instr →
        (∀ events, body.events instr = .ok events → ∀ event ∈ events, body.Makes instr event) ∧
        (∀ target, instr.target? = some target →
          ∃ owners, body.Makes instr (.init target owners)) ∧
        ∀ event, body.Makes instr event →
          event.effectById? tracked = some (event.effect tracked) := by
  rcases valid.inOrder with ⟨program, inOrder⟩
  rcases typed.exists_trackedPlaces with ⟨tracked, found⟩
  have distinct := nodup_trackedPlaces found
  refine ⟨tracked, found, distinct, mem_tracked_iff_tracks found, placeId?_eq_some_iff distinct,
    by rw [subplaceNumbers, List.length_map], ?_, ?_⟩
  · intro position outer here
    exact ⟨_, getElem?_subplaceNumbers here, increasing_numbersWithin outer,
      mem_numbersWithin_iff outer⟩
  · intro label instr here
    refine ⟨fun events asked event listed => makes_of_events asked listed, ?_, ?_⟩
    · intro target writes
      rcases exists_ownersAlong (typed target (inCode_of_target here writes)) with ⟨owners, along⟩
      exact ⟨owners, .write writes along⟩
    · intro event makes
      exact Event.effectById?_eq distinct (makes.concerns_tracked inOrder found here)

/-- A body that writes through a pointer stored in a structure. -/
def linkedWrite : Body :=
  { name := "linked"
    program := some (.ofDeclarations
      [{ name := "Pair"
         fields := [{ name := "first", type := .int }, { name := "second", type := .int }] },
       { name := "Holder"
         parameters := [.named "p"]
         fields := [{ name := "count", type := .int },
                    { name := "link", type := .borrow (.named "p") .unique (.struct "Pair" []) }] }]
      [])
    locals := [
      { name := "out", kind := .result, type := .unit },
      { name := "x", kind := .parameter, type := .struct "Holder" [.inferred 1] }]
    code := [
      { instr := some (.assign (((Place.ofLocal 1).field 1).deref.field 1) (.const 1) 1) },
      { instr := some (.deinit 1 2) },
      { instr := some (.assign (.ofLocal 0) .unit 3) },
      { instr := some .ret }] }

/-- The field next to the written one is tracked on account of it, as are the pair
behind the pointer, the pointer and the field next to the pointer.  The pair is found by
its key together with its parts, and so is all that the end of the structure concerns. -/
theorem linkedWrite_indexed_exactly :
    ∃ tracked, linkedWrite.trackedPlaces = .ok tracked ∧
      (let pair := ((Place.ofLocal 1).field 1).deref
       pair.field 0 ∈ tracked ∧ (Place.ofLocal 1).field 0 ∈ tracked ∧
        placeId? tracked pair = some 4 ∧ placeId? tracked (pair.field 2) = none ∧
        (subplaceNumbers tracked)[4]? = some [2, 3, 4]) ∧
      (Event.deinit (.ofLocal 1)).effectById? tracked =
        some ((Event.deinit (.ofLocal 1)).effect tracked) := by
  have valid : linkedWrite.IsValid := rfl
  have typed : linkedWrite.PlacesTyped := placesTyped_of_test (by decide +kernel)
  let pair := ((Place.ofLocal 1).field 1).deref
  let listing : List Place :=
    [.ofLocal 0, .ofLocal 1, pair.field 1, pair.field 0, pair, (Place.ofLocal 1).field 1,
      (Place.ofLocal 1).field 0]
  rcases trackedPlaces_indexed_exactly valid typed with
    ⟨tracked, found, _, _, byKey, _, _, lookups⟩
  have computed : linkedWrite.trackedPlaces = .ok listing := by decide +kernel
  rcases Except.ok.inj (found.symm.trans computed) with rfl
  refine ⟨listing, computed, ⟨by decide, by decide, (byKey _ _).mpr rfl, ?_, by decide⟩, ?_⟩
  · rw [Option.eq_none_iff_forall_ne_some]
    intro position known
    have listed := List.mem_of_getElem? ((byKey _ _).mp known)
    exact absurd listed (by decide)
  · exact (lookups 1 (.deinit 1 2) rfl).2.2 _ (.surrender (List.mem_singleton.mpr rfl))

end Body
end BorrowChecker
