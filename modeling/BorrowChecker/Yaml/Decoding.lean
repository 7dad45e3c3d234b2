import BorrowChecker.Yaml.Value

namespace BorrowChecker
namespace Yaml

/-!
Decoding a document into a record.

A record has named fields, each of which takes the value it needs from a node.
Fields that the record does not have are passed over without a look at their
values.  A merge key does not name a field: its value is one or more mappings
whose fields are added, as far as there is no field of the same name already.

A value of the wrong kind does not stop the decoding, but the record is refused
in the end.  Other defects stop it at once.  Which defect comes first matters,
because one of them is of its own kind: where mappings are merged their keys have
to be compared, and collections cannot be.

Every visit of a node is counted.  A document that is visited mostly through
aliases is refused, so a short text cannot stand for a huge document.
-/

/-- Why decoding stops. -/
inductive Refusal where
  /-- The document does not describe a record. -/
  | unreadable
  /-- A collection is a key that has to be compared. -/
  | incomparableKey
  deriving DecidableEq, Repr

/-- What a decoded key is compared by. -/
inductive Key where
  | value (value : Value)
  | collection
  deriving DecidableEq, Repr

/-- The state of decoding. -/
structure Progress (record : Type) where
  record : record
  visits : Nat := 0
  aliasVisits : Nat := 0
  /-- The aliases that are being followed, the last one first. -/
  followed : List Nat := []
  /-- The keys that are taken already, while mappings are merged. -/
  taken : Option (List Value) := none
  hasWrongKind : Bool := false

/-- A computation that decodes. -/
abbrev Decoding (record : Type) := StateT (Progress record) (Except Refusal)

/-- A field of a record: its name, and how it takes its value from a node. -/
structure RecordField (record : Type) where
  name : String
  set : Document → Node → Decoding record Unit

/-- What a mapping is decoded into: the record, or a table of values of any kind
whose keys are texts or of any kind, too. -/
inductive Target where
  | record
  | table (hasNames : Bool)

namespace Decoding

variable {record : Type} {α : Type}

/-- Whether too large a part of the visits is due to aliases.  Up to 400000 visits
the part can be 99 percent; it shrinks to 10 percent at 4000000 visits. -/
def isExcessive (visits aliasVisits : Nat) : Bool :=
  aliasVisits > 100 && visits > 1000 &&
    if visits ≤ 400000 then 100 * aliasVisits > 99 * visits
    else if 4000000 ≤ visits then 10 * aliasVisits > visits
    else 360000000 * aliasVisits > visits * (356400000 - 89 * (visits - 400000))

def visit : Decoding record Unit := do
  let progress ← get
  let visits := progress.visits + 1
  let aliasVisits :=
    if progress.followed.isEmpty then progress.aliasVisits else progress.aliasVisits + 1
  if isExcessive visits aliasVisits then throw .unreadable
  else set { progress with visits, aliasVisits }

def wrongKind : Decoding record Unit :=
  modify fun progress => { progress with hasWrongKind := true }

/-- Decode what an alias stands for.  An alias inside of what it stands for
cannot be followed. -/
def follow (occurrence : Nat) (target : Decoding record α) : Decoding record α := do
  if (← get).followed.contains occurrence then throw .unreadable
  else
    modify fun progress => { progress with followed := occurrence :: progress.followed }
    let result ← target
    modify fun progress => { progress with followed := progress.followed.drop 1 }
    return result

/-- Visit a node, or the node that an alias stands for. -/
def enter (document : Document) (node : Node) (inside : Node → Decoding record α) :
    Decoding record α := do
  visit
  match node with
  | .alias occurrence _ place =>
      follow occurrence do
        visit
        inside (document.nodeAt place)
  | node => inside node

def scalar (tag : Option String) (isPlain : Bool) (text : String) : Decoding record Value :=
  match scalarValue? tag isPlain text with
  | some value => return value
  | none => throw .unreadable

/-- The value of a scalar node.  A collection has the wrong kind. -/
def scalarAt (document : Document) (node : Node) : Decoding record (Option Value) :=
  enter document node fun
    | .scalar tag isPlain text => return some (← scalar tag isPlain text)
    | _ => do
        wrongKind
        return none

/-- The text of a scalar node: the one it stands for, or the one that writes its
value.  A null has no text, and a collection has the wrong kind. -/
def nameAt (document : Document) (node : Node) : Decoding record (Option (List Text.Symbol)) :=
  enter document node fun
    | .scalar tag isPlain text => do
        match ← scalar tag isPlain text with
        | .null => return none
        | .text content => return some content
        | .bool _ | .int _ | .float _ | .timestamp _ => return some (Text.symbols text)
    | _ => do
        wrongKind
        return none

/-- The keys that are taken, or nothing outside of merges. -/
def releaseTaken : Decoding record (Option (List Value)) := do
  let progress ← get
  set { progress with taken := none }
  return progress.taken

/-- Set the keys that are taken. -/
def restoreTaken (taken : Option (List Value)) : Decoding record Unit :=
  modify fun progress => { progress with taken }

/-- The value of a key that has to be compared. -/
def comparable : Key → Decoding record Value
  | .value value => return value
  | .collection => throw .incomparableKey

/-- Take a key, if it can be taken.  Outside of merges keys are not compared. -/
def take (key : Key) : Option (List Value) → Decoding record (Option (Option (List Value)))
  | none => return some none
  | some taken => do
      let value ← comparable key
      return if taken.any value.isSameKey then none else some (some (value :: taken))

/-- Set a field of the record.  Fields that were set before cannot be set
again. -/
def setField (fields : List (RecordField record)) (document : Document) (done : List String)
    (name : List Text.Symbol) (node : Node) : Decoding record (List String) :=
  match fields.find? fun field => Text.symbols field.name = name with
  | none => return done
  | some field =>
      if done.contains field.name then do
        wrongKind
        return done
      else do
        field.set document node
        return field.name :: done

def hasMerge (entries : List (Node × Node)) : Bool := entries.any fun (key, _) => key.isMergeKey

mutual

/-- Decode a node of any kind, and say which key it is.  At most `depth` aliases
are followed inside of each other. -/
def anything (fields : List (RecordField record)) (document : Document) :
    (depth : Nat) → Node → Decoding record (Option Key)
  | _, .scalar tag isPlain text => do
      visit
      return some (.value (← scalar tag isPlain text))
  | depth, .sequence _ items => do
      visit
      allItems fields document depth items
      return some .collection
  | depth, .mapping _ entries => do
      visit
      let hasNames := entries.all fun (key, _) => key.isNameOrMerge document
      if ← mapping fields document depth (.table hasNames) entries then return some .collection
      else return none
  | 0, .alias _ _ _ => throw .unreadable
  | depth + 1, .alias occurrence _ place => do
      visit
      follow occurrence (anything fields document depth (document.nodeAt place))
termination_by depth node => (depth, sizeOf node, 0)

def allItems (fields : List (RecordField record)) (document : Document) :
    (depth : Nat) → List Node → Decoding record Unit
  | _, [] => return ()
  | depth, item :: rest => do
      let _ ← anything fields document depth item
      allItems fields document depth rest
termination_by depth items => (depth, sizeOf items, 0)

/-- Decode a mapping: its own entries first, and then what it merges.  The result
tells whether its keys are distinct, without which it is not decoded. -/
def mapping (fields : List (RecordField record)) (document : Document) (depth : Nat)
    (target : Target) (entries : List (Node × Node)) : Decoding record Bool := do
  if keysDistinct entries then
    let taken ← releaseTaken
    restoreTaken (← ownEntries fields document depth target taken [] entries)
    if hasMerge entries then
      if taken.isNone then
        restoreTaken (some [])
        takeKeys fields document depth entries
      mergedEntries fields document depth target entries
      if taken.isNone then restoreTaken none
    return true
  else
    wrongKind
    return false
termination_by (depth, sizeOf entries, 1)

/-- Decode the entries of a mapping that are not merged, and return the keys that
are taken then. -/
def ownEntries (fields : List (RecordField record)) (document : Document) :
    (depth : Nat) → Target → Option (List Value) → (done : List String) →
    List (Node × Node) → Decoding record (Option (List Value))
  | _, _, taken, _, [] => return taken
  | depth, target, taken, done, (key, value) :: rest => do
      if key.isMergeKey then ownEntries fields document depth target taken done rest
      else
        match target with
        | .record =>
            match ← nameAt document key with
            | none => ownEntries fields document depth target taken done rest
            | some name =>
                match ← take (.value (.text name)) taken with
                | none => ownEntries fields document depth target taken done rest
                | some taken =>
                    let done ← setField fields document done name value
                    ownEntries fields document depth target taken done rest
        | .table hasNames =>
            let found ←
              if hasNames then
                pure ((← nameAt document key).map fun name => Key.value (.text name))
              else anything fields document depth key
            match found with
            | none => ownEntries fields document depth target taken done rest
            | some found =>
                match ← take found taken with
                | none => ownEntries fields document depth target taken done rest
                | some taken =>
                    if found = .collection then throw .unreadable
                    else
                      let _ ← anything fields document depth value
                      ownEntries fields document depth target taken done rest
termination_by depth _ _ _ entries => (depth, sizeOf entries, 0)

/-- Take the keys of a mapping before others are merged into it. -/
def takeKeys (fields : List (RecordField record)) (document : Document) :
    (depth : Nat) → List (Node × Node) → Decoding record Unit
  | _, [] => return ()
  | depth, (key, _) :: rest => do
      match ← anything fields document depth key with
      | none => takeKeys fields document depth rest
      | some found =>
          let value ← comparable found
          modify fun progress => { progress with taken := progress.taken.map (value :: ·) }
          takeKeys fields document depth rest
termination_by depth entries => (depth, sizeOf entries, 0)

/-- Decode what the merge keys among some entries ask for. -/
def mergedEntries (fields : List (RecordField record)) (document : Document) :
    (depth : Nat) → Target → List (Node × Node) → Decoding record Unit
  | _, _, [] => return ()
  | depth, target, (key, value) :: rest => do
      if key.isMergeKey then merged fields document depth target true value
      mergedEntries fields document depth target rest
termination_by depth _ entries => (depth, sizeOf entries, 0)

/-- Decode a mapping that is merged, or several ones where those are allowed. -/
def merged (fields : List (RecordField record)) (document : Document) :
    (depth : Nat) → Target → (allowsSeveral : Bool) → Node → Decoding record Unit
  | depth, target, _, .mapping _ entries => do
      visit
      let _ ← mapping fields document depth target entries
  | depth + 1, target, _, .alias occurrence _ place => do
      match document.nodeAt place with
      | .mapping _ entries =>
          visit
          follow occurrence do
            visit
            let _ ← mapping fields document depth target entries
      | _ => throw .unreadable
  | depth, target, true, .sequence _ items => mergedItems fields document depth target items
  | _, _, _, _ => throw .unreadable
termination_by depth _ _ node => (depth, sizeOf node, 0)

/-- Decode mappings that are merged, one after the other. -/
def mergedItems (fields : List (RecordField record)) (document : Document) :
    (depth : Nat) → Target → List Node → Decoding record Unit
  | _, _, [] => return ()
  | depth, target, item :: rest => do
      merged fields document depth target false item
      mergedItems fields document depth target rest
termination_by depth _ items => (depth, sizeOf items, 0)

end

/-- Decode the tree of a document.  No more aliases can be followed inside of each
other than there are. -/
def root (fields : List (RecordField record)) (document : Document) : Decoding record Unit := do
  visit
  visit
  match document.root with
  | .mapping _ entries =>
      let _ ← mapping fields document (document.aliasCount + 1) .record entries
  | .scalar tag isPlain text =>
      if (← scalar tag isPlain text) ≠ .null then wrongKind
  | .sequence _ _ | .alias _ _ _ => wrongKind

end Decoding

/-- The record that a document describes, given the one without any fields. -/
def Document.decode {record : Type} (document : Document) (fields : List (RecordField record))
    (start : record) : Except Refusal record := do
  let ((), progress) ← (Decoding.root fields document).run { record := start }
  if progress.hasWrongKind then .error .unreadable else .ok progress.record

end Yaml
end BorrowChecker
