import BorrowChecker.Body

namespace BorrowChecker

/-!
The places whose initialization is tracked.

Tracked are all locals, every place that occurs in the code together with the
places it is reached through, and, next to every tracked field, the other
declared fields of its structure.  They are numbered in the order in which the
code mentions them.
-/

namespace Place

/-- The place itself, then the places it is reached through, up to its local. -/
def lineage (place : Place) : List Place :=
  (List.range (place.path.length + 1)).reverse.map fun steps =>
    { place with path := place.path.take steps }

end Place

/-- A structure place together with the places of its declared fields. -/
structure Owner where
  place : Place
  parts : List Place
  deriving DecidableEq, Repr

namespace Body

/-- The structure whose field a place is, if its last step selects a field. -/
def owner? (body : Body) (place : Place) : Except Fault (Option Owner) :=
  match place.parent? with
  | some (parent, .field _) => do
      let decl ← body.structAt parent
      let parts := (List.range decl.fields.length).map fun (index : Nat) => parent.field index
      return some { place := parent, parts }
  | _ => .ok none

def withSiblings (body : Body) (place : Place) : Except Fault (List Place) := do
  return place :: ((← body.owner? place).map Owner.parts).getD []

/-- The places to be tracked because of one that occurs in the code. -/
def trackedWith (body : Body) (place : Place) : Except Fault (List Place) := do
  return (← place.lineage.mapM body.withSiblings).flatten

def trackedIn (body : Body) (stmt : Stmt) : Except Fault (List Place) :=
  match stmt.instr with
  | some instr => return (← instr.places.mapM body.trackedWith).flatten
  | none => .ok []

/-- The tracked places of a body, without repetition. -/
def trackedPlaces (body : Body) : Except Fault (List Place) := do
  let locals := (List.range body.locals.length).map fun (position : Nat) =>
    Place.ofLocal position
  return (locals ++ (← body.code.mapM body.trackedIn).flatten).eraseDups

end Body

/-- The numbers of the tracked places within each tracked place, itself
included, in increasing order. -/
def subplaceNumbers (tracked : List Place) : List (List Nat) :=
  tracked.map fun outer =>
    (List.range tracked.length).filter fun position =>
      tracked[position]?.any fun inner => inner.isWithin outer

end BorrowChecker
