import BorrowChecker.Dataflow.Solver
import BorrowChecker.Initialization.Tracked

namespace BorrowChecker

/-!
Places that may be uninitialized.

The analysis follows the events of an instruction.  Moving out of a place and
ending the storage of a local deinitialize the place and all that is tracked
within it; writing a place initializes it.  A structure counts as initialized
again as soon as none of its declared fields is uninitialized any more.

What the events of an instruction are depends on types and can fail; what they
do to a set of places cannot.  All failures therefore happen before any set is
propagated.
-/

/-- A change of initialization.  Writing a place comes with the structures it
is a part of, innermost first, up to the first pointer it lies behind. -/
inductive Event where
  | deinit (place : Place)
  | init (place : Place) (owners : List Owner)
  deriving DecidableEq, Repr

namespace Body

/-- The structures that the places of a lineage are parts of, up to the first
place that is no field. -/
def ownersAlong (body : Body) : List Place → Except Fault (List Owner)
  | [] => .ok []
  | place :: outer => do
      match ← body.owner? place with
      | none => return []
      | some owner => return owner :: (← body.ownersAlong outer)

def initEvent (body : Body) (place : Place) : Except Fault Event := do
  return .init place (← body.ownersAlong place.lineage)

/-- Reading a place: a move out of it unless its type is copyable. -/
def moveEvents (body : Body) (place : Place) : Except Fault (List Event) := do
  return if ← body.isCopyable place then [] else [.deinit place]

def readEvents (body : Body) (places : List Place) : Except Fault (List Event) := do
  return (← places.mapM body.moveEvents).flatten

/-- The changes an instruction makes, in order.  Borrowing is not a use that
consumes the place, whereas a branch always consumes its condition. -/
def events (body : Body) : Instr → Except Fault (List Event)
  | .assign target source _ => do
      let moves ← if source.isBorrow then pure [] else body.readEvents source.operands
      return moves ++ [← body.initEvent target]
  | .call _ arguments target _ => do
      let moves ← body.readEvents (arguments.map Place.ofLocal)
      return moves ++ [← body.initEvent target]
  | .deinit victim _ => .ok [.deinit (.ofLocal victim)]
  | .branch condition _ _ => .ok [.deinit (.ofLocal condition)]
  | .goto _ | .ret => .ok []

def eventsAt (body : Body) (label : Nat) : Except Fault (List Event) :=
  match body.instr? label with
  | some instr => body.events instr
  | none => .error .absent

end Body

/-- A structure by the number of its place and the numbers of its parts. -/
structure NumberedOwner where
  place : Nat
  parts : List Nat
  deriving DecidableEq, Repr

/-- An event in terms of the numbers of tracked places. -/
inductive Effect (bound : Nat) where
  | deinit (region : IndexSet bound)
  | init (region : IndexSet bound) (owners : List NumberedOwner)
  deriving Repr

namespace Effect

variable {bound : Nat}

/-- Structures none of whose parts is uninitialized become initialized, from the
innermost outwards until one has an uninitialized part. -/
def settle (set : IndexSet bound) : List NumberedOwner → IndexSet bound
  | [] => set
  | owner :: outer =>
      if owner.parts.any set.contains then set else settle (set.erase owner.place) outer

/-- The uninitialized places after an event. -/
def apply (set : IndexSet bound) : Effect bound → IndexSet bound
  | deinit region => set.union region
  | init region owners => settle (set.diff region) owners

end Effect

def placeNumber (tracked : List Place) (place : Place) : Nat := tracked.idxOf place

def regionOf (tracked : List Place) (place : Place) : IndexSet tracked.length :=
  IndexSet.ofList tracked.length <| (List.range tracked.length).filter fun position =>
    tracked[position]?.any fun inner => inner.isWithin place

/-- Replace the places of an event by their numbers. -/
def Event.effect (tracked : List Place) : Event → Effect tracked.length
  | deinit place => .deinit (regionOf tracked place)
  | init place owners =>
      .init (regionOf tracked place) <| owners.map fun owner =>
        { place := placeNumber tracked owner.place
          parts := owner.parts.map (placeNumber tracked) }

/-- The places that may be uninitialized before the instructions of reachable
labels. -/
structure Uninitialized where
  tracked : List Place
  states : States tracked.length
  deriving Repr

namespace Uninitialized

/-- The tracked places of a set of numbers, in order. -/
def placesOf (analysis : Uninitialized) (set : IndexSet analysis.tracked.length) : List Place :=
  set.toList.filterMap fun position => analysis.tracked[position]?

def placesAt (analysis : Uninitialized) (label : Nat) : List Place :=
  ((analysis.states.at? label).map analysis.placesOf).getD []

/-- Whether a place itself may be uninitialized at a label. -/
def isUninit (analysis : Uninitialized) (label : Nat) (place : Place) : Bool :=
  (analysis.placesAt label).contains place

/-- Whether a place or any part of it may be uninitialized at a label. -/
def notFullyInit (analysis : Uninitialized) (label : Nat) (place : Place) : Bool :=
  (analysis.placesAt label).any fun inner => inner.isWithin place

/-- Answer a question about a signed label, which has to be one of the body. -/
def query {α : Type} (analysis : Uninitialized) (label : Int) (question : Nat → α) :
    Except Fault α := do
  let _ ← analysis.states.before label
  return question label.toNat

end Uninitialized

namespace Body

/-- The places that may be uninitialized on entry: all that are not part of a
parameter. -/
def entryState (body : Body) (tracked : List Place) : IndexSet tracked.length :=
  IndexSet.ofList tracked.length <| (List.range tracked.length).filter fun position =>
    tracked[position]?.any fun place =>
      (memberAt body.locals place.root).all fun entry => entry.kind != .parameter

/-- The kind of the local that each place is rooted at. -/
def rootKinds (body : Body) (tracked : List Place) : Except Fault (List LocalKind) :=
  tracked.mapM fun place => return (← requireAt body.locals place.root).kind

/-- The effects at each reachable label.  They are determined in the order in
which control first reaches the labels, and the first failure counts. -/
def effects (body : Body) (flow : Flow) (tracked : List Place) :
    Except Fault (List (Nat × List (Effect tracked.length))) :=
  flow.discovery.mapM fun label => do
    return (label, (← body.eventsAt label).map (Event.effect tracked))

/-- The places that may be uninitialized before each reachable label. -/
def uninitialized (body : Body) (flow : Flow) : Except Fault Uninitialized := do
  let tracked ← body.trackedPlaces
  let _ ← body.rootKinds tracked
  let effects ← body.effects flow tracked
  let transfer (label : Nat) (set : IndexSet tracked.length) : IndexSet tracked.length :=
    ((effects.lookup label).getD []).foldl Effect.apply set
  return { tracked, states := flow.solveForward (body.entryState tracked) transfer }

end Body
end BorrowChecker
