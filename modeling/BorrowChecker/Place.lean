namespace BorrowChecker

/-!
Places: storage locations of a body.

A place is a local followed by a path of field selections and dereferences.
Containment between places is a statement about paths only; it knows nothing of
types, so it is meaningful for places that do not type-check.  Two renderings
are given: a compact key and the form used in messages, which puts a
dereference in front and parenthesises it before a field selection.
-/

/-- One step of an access path. -/
inductive Step where
  | field (index : Int)
  | deref
  deriving DecidableEq, Repr, Inhabited

def Step.isDeref : Step → Bool
  | deref => true
  | field _ => false

/-- A storage location: a local and the path that leads into it. -/
structure Place where
  root : Int
  path : List Step := []
  deriving DecidableEq, Repr, Inhabited

namespace Place

def ofLocal (root : Int) : Place := { root }

def extend (place : Place) (step : Step) : Place :=
  { place with path := place.path ++ [step] }

def field (place : Place) (index : Int) : Place := place.extend (.field index)

/-- The place a pointer stored at a place points to. -/
def deref (place : Place) : Place := place.extend .deref

def isLocal (place : Place) : Bool := place.path.isEmpty

/-- Whether some step of the path follows a pointer. -/
def hasDeref (place : Place) : Bool := place.path.any Step.isDeref

/-- The place without its last step, together with that step. -/
def parent? (place : Place) : Option (Place × Step) :=
  place.path.getLast?.map fun step => ({ place with path := place.path.dropLast }, step)

/-- The path up to the last dereference in it, that one excluded. -/
def beforeLastDeref? : List Step → Option (List Step)
  | [] => none
  | step :: rest =>
      match beforeLastDeref? rest with
      | some inner => some (step :: inner)
      | none => if step.isDeref then some [] else none

/-- The place that the last dereference of a path follows. -/
def derefBase? (place : Place) : Option Place :=
  (beforeLastDeref? place.path).map fun path => { place with path }

/-- Whether `inner` denotes `outer` or a location reached from it. -/
def isWithin (inner outer : Place) : Bool :=
  inner.root == outer.root && outer.path.isPrefixOf inner.path

/-- Whether `inner` lies in the storage of `outer` itself, not behind a pointer
stored there. -/
def isStoredIn (inner outer : Place) : Bool :=
  inner.isWithin outer && !(inner.path.drop outer.path.length).any Step.isDeref

/-- Whether two places may share storage. -/
def overlaps (left right : Place) : Bool := left.isWithin right || right.isWithin left

/-- The compact form of one step: `*`, or a dot and a field number. -/
def stepKey : Step → String
  | .deref => "*"
  | .field index => "." ++ toString index

/-- The compact form of a place: the local, followed by its steps. -/
def key (place : Place) : String :=
  toString place.root ++ String.join (place.path.map stepKey)

/-- Render a path after the text of what it starts from.  `afterDeref` says
whether that text ends a dereference, which a field selection parenthesises.
The name of a field may depend on the place it is selected from. -/
def renderPath {m : Type → Type} [Monad m] (fieldName : Place → Int → m String) :
    (origin : Place) → (afterDeref : Bool) → (rendered : String) → List Step → m String
  | _, _, rendered, [] => pure rendered
  | origin, _, rendered, .deref :: rest =>
      renderPath fieldName origin.deref true ("*" ++ rendered) rest
  | origin, afterDeref, rendered, .field index :: rest => do
      let name ← fieldName origin index
      let base := if afterDeref then "(" ++ rendered ++ ")" else rendered
      renderPath fieldName (origin.field index) false (base ++ "." ++ name) rest

/-- The form used where no names are at hand: locals and fields by number. -/
def text (place : Place) : String :=
  Id.run <| renderPath (fun _ index => pure (toString index)) (ofLocal place.root) false
    ("_" ++ toString place.root) place.path

/-- Containment is a common root together with a path that begins with the
other. -/
theorem isWithin_iff (inner outer : Place) :
    inner.isWithin outer = true ↔ inner.root = outer.root ∧ outer.path <+: inner.path := by
  simp [isWithin]

/-- Every place lies within itself. -/
theorem isWithin_refl (place : Place) : place.isWithin place = true := by
  simp [isWithin_iff]

/-- Containment is transitive. -/
theorem isWithin_trans {inner middle outer : Place} (first : inner.isWithin middle = true)
    (second : middle.isWithin outer = true) : inner.isWithin outer = true := by
  rw [isWithin_iff] at *
  exact ⟨first.1.trans second.1, second.2.trans first.2⟩

end Place
end BorrowChecker
