import BorrowChecker.Yaml.Token

namespace BorrowChecker
namespace Yaml

/-!
Nodes of a YAML document.

A document is a tree of scalars, sequences and mappings.  An anchor gives a name
to a node, and an alias stands for the node that was last given its name, be it
complete or not.  A document therefore keeps the nodes with anchors beside its
tree, and an alias tells the place of its node among them.

Only the first document of a text is read.

Readers count down the steps they may take.  Opening a collection takes three of
them and every member one more.  Both take up a character of the text, so four
steps for each character are enough.
-/

/-- A node.  Nodes carry their tag, if a specific one was written.  Scalars tell
whether they were written plainly, and aliases are told apart by a number. -/
inductive Node where
  | scalar (tag : Option String) (isPlain : Bool) (text : String)
  | sequence (tag : Option String) (items : List Node)
  | mapping (tag : Option String) (entries : List (Node × Node))
  | alias (occurrence : Nat) (name : String) (place : Nat)
  deriving Inhabited

/-- The scalar that stands where nothing is written. -/
def Node.empty : Node := .scalar none true ""

/-- A document: its tree, its nodes with anchors, and how many aliases it has. -/
structure Document where
  root : Node
  anchored : Array Node
  aliasCount : Nat

def Document.nodeAt (document : Document) (place : Nat) : Node :=
  document.anchored.getD place .empty

/-- What is left to read, the names that have been given with the places of their
nodes, and the meaning of tag handles. -/
structure ReadState where
  lexer : Lexer
  names : List (String × Nat) := []
  anchored : Array Node := #[]
  aliasCount : Nat := 0
  handles : List (String × String) := [("!", "!"), ("!!", "tag:yaml.org,2002:")]

/-- A reader of nodes. -/
abbrev Reader := StateT ReadState Option

namespace Reader

def peek : Reader Token := do
  let state ← get
  let (token, lexer) ← state.lexer.peek
  set { state with lexer }
  return token

def skip : Reader Unit := modify fun state => { state with lexer := state.lexer.skip }

def expect (token : Token) : Reader Unit := do
  if (← peek) = token then skip else failure

/-- Give a name, if there is one, to the node that comes next, and find a place
for the node. -/
def announce : Option String → Reader (Option Nat)
  | none => return none
  | some name => do
      let state ← get
      let place := state.anchored.size
      set { state with
        names := (name, place) :: state.names, anchored := state.anchored.push .empty }
      return some place

/-- Keep a node at the place that was found for it. -/
def keep (place : Option Nat) (node : Node) : Reader Unit :=
  match place with
  | none => pure ()
  | some place => modify fun state =>
      { state with anchored := state.anchored.setIfInBounds place node }

/-- The alias of a name, which has to be given. -/
def resolveAlias (name : String) : Reader Node := do
  let state ← get
  match state.names.lookup name with
  | none => failure
  | some place =>
      set { state with aliasCount := state.aliasCount + 1 }
      return .alias state.aliasCount name place

/-- The tag made of a handle and a suffix.  A lone exclamation mark is no
specific tag. -/
def resolveTag (handle suffix : String) : Reader (Option String) := do
  if handle = "" then return if suffix = "!" then none else some suffix
  else
    match (← get).handles.lookup handle with
    | some expansion => return some (expansion ++ suffix)
    | none => failure

/-- The anchor and the tag in front of a node, in either order. -/
def properties : Reader (Option String × Option String × Bool) := do
  match ← peek with
  | .anchor name =>
      skip
      match ← peek with
      | .tag handle suffix => skip; return (some name, ← resolveTag handle suffix, true)
      | _ => return (some name, none, true)
  | .tag handle suffix =>
      skip
      match ← peek with
      | .anchor name => skip; return (some name, ← resolveTag handle suffix, true)
      | _ => return (none, ← resolveTag handle suffix, true)
  | _ => return (none, none, false)

/-- The scalar that properties without content stand for. -/
def bareProperties (tag : Option String) (hasProperties : Bool) : Reader Node :=
  if hasProperties then pure (.scalar tag true "") else failure

/-- Read a node unless one of the given tokens follows, which leaves it empty. -/
def unlessNext (tokens : List Token) (reader : Reader Node) : Reader Node := do
  if tokens.contains (← peek) then pure .empty else reader

/-- Read the value after a colon, if there is a colon. -/
def valueUnlessNext (tokens : List Token) (reader : Reader Node) : Reader Node := do
  if (← peek) = .value then
    skip
    unlessNext tokens reader
  else pure .empty

/-- Move past the comma between two members of a flow collection. -/
def separator (isFirst : Bool) : Reader Unit :=
  if isFirst then pure () else expect .flowSeparator

mutual

/-- Read a node.  Block collections are allowed only in blocks, and a sequence
without indentation of its own only as a member of a mapping. -/
def node : (fuel : Nat) → (inBlock bare : Bool) → Reader Node
  | 0, _, _ => failure
  | fuel + 1, inBlock, bare => do
      match ← peek with
      | .alias name => skip; resolveAlias name
      | _ =>
          let (anchor, tag, hasProperties) ← properties
          let place ← announce anchor
          let content ← content fuel inBlock bare tag hasProperties
          keep place content
          return content

/-- Read a node after its properties. -/
def content : (fuel : Nat) → (inBlock bare : Bool) → Option String → Bool → Reader Node
  | 0, _, _, _, _ => failure
  | fuel + 1, inBlock, bare, tag, hasProperties => do
      match ← peek with
      | .scalar text isPlain => skip; return .scalar tag isPlain text
      | .flowSequenceStart => skip; return .sequence tag (← flowItems fuel true)
      | .flowMappingStart => skip; return .mapping tag (← flowEntries fuel true)
      | .blockItem =>
          if bare then return .sequence tag (← bareItems fuel)
          else bareProperties tag hasProperties
      | .blockSequenceStart =>
          if inBlock then skip; return .sequence tag (← blockItems fuel)
          else bareProperties tag hasProperties
      | .blockMappingStart =>
          if inBlock then skip; return .mapping tag (← blockEntries fuel)
          else bareProperties tag hasProperties
      | _ => bareProperties tag hasProperties

def blockItems : (fuel : Nat) → Reader (List Node)
  | 0 => failure
  | fuel + 1 => do
      match ← peek with
      | .blockItem =>
          skip
          let item ← unlessNext [.blockItem, .blockEnd] (node fuel true false)
          return item :: (← blockItems fuel)
      | .blockEnd => skip; return []
      | _ => failure

/-- The items of a sequence at the indentation of the mapping it belongs to. -/
def bareItems : (fuel : Nat) → Reader (List Node)
  | 0 => failure
  | fuel + 1 => do
      match ← peek with
      | .blockItem =>
          skip
          let item ← unlessNext [.blockItem, .key, .value, .blockEnd] (node fuel true false)
          return item :: (← bareItems fuel)
      | _ => return []

def blockEntries : (fuel : Nat) → Reader (List (Node × Node))
  | 0 => failure
  | fuel + 1 => do
      match ← peek with
      | .key =>
          skip
          let key ← unlessNext [.key, .value, .blockEnd] (node fuel true true)
          let value ← valueUnlessNext [.key, .value, .blockEnd] (node fuel true true)
          return (key, value) :: (← blockEntries fuel)
      | .blockEnd => skip; return []
      | _ => failure

/-- The items of a flow sequence.  A key among them makes a mapping of one entry.
If the key is empty, the mark after it is taken for a part of it. -/
def flowItems : (fuel : Nat) → (isFirst : Bool) → Reader (List Node)
  | 0, _ => failure
  | fuel + 1, isFirst => do
      if (← peek) = .flowSequenceEnd then
        skip
        return []
      else
        separator isFirst
        match ← peek with
        | .flowSequenceEnd => skip; return []
        | .key =>
            skip
            let next ← peek
            let key ← if next = .value || next = .flowSeparator || next = .flowSequenceEnd then do
                skip
                pure .empty
              else node fuel false false
            let value ← valueUnlessNext [.flowSeparator, .flowSequenceEnd]
              (node fuel false false)
            return .mapping none [(key, value)] :: (← flowItems fuel false)
        | _ =>
            let item ← node fuel false false
            return item :: (← flowItems fuel false)

/-- The entries of a flow mapping.  A member without a key mark has no value. -/
def flowEntries : (fuel : Nat) → (isFirst : Bool) → Reader (List (Node × Node))
  | 0, _ => failure
  | fuel + 1, isFirst => do
      if (← peek) = .flowMappingEnd then
        skip
        return []
      else
        separator isFirst
        match ← peek with
        | .flowMappingEnd => skip; return []
        | .key =>
            skip
            let key ← unlessNext [.value, .flowSeparator, .flowMappingEnd]
              (node fuel false false)
            let value ← valueUnlessNext [.flowSeparator, .flowMappingEnd]
              (node fuel false false)
            return (key, value) :: (← flowEntries fuel false)
        | _ =>
            let key ← node fuel false false
            return (key, .empty) :: (← flowEntries fuel false)

end

/-- Read the directives in front of a document: one version at most, and each
tag handle once. -/
def directives : (fuel : Nat) → (hasVersion : Bool) → (seen : List String) → Reader Unit
  | 0, _, _ => failure
  | fuel + 1, hasVersion, seen => do
      match ← peek with
      | .version isSupported =>
          if hasVersion || !isSupported then failure
          else
            skip
            directives fuel true seen
      | .tagHandle handle expansion =>
          if seen.contains handle then failure
          else
            skip
            modify fun state => { state with handles := (handle, expansion) :: state.handles }
            directives fuel hasVersion (handle :: seen)
      | _ => pure ()

/-- Whether a token ends or announces a document. -/
def isDocumentBoundary : Token → Bool
  | .version _ | .tagHandle _ _ | .documentStart | .documentEnd | .streamEnd => true
  | _ => false

/-- Read the first document of a text.  A text without documents has none. -/
def document (fuel : Nat) : Reader (Option Node) := do
  match ← peek with
  | .streamEnd => return none
  | .version _ | .tagHandle _ _ | .documentStart =>
      directives fuel false []
      expect .documentStart
      let root ← if isDocumentBoundary (← peek) then pure .empty else node fuel true false
      let _ ← peek
      return some root
  | _ =>
      let root ← node fuel true false
      let _ ← peek
      return some root

end Reader

/-- The first document of a text: nothing if the text is not well formed, and no
document if it has none. -/
def parse (text : String) : Option (Option Document) := do
  let lexer := Lexer.ofText text.toList
  let (root, state) ← (Reader.document (4 * lexer.size + 8)).run { lexer }
  return root.map fun root =>
    { root, anchored := state.anchored, aliasCount := state.aliasCount }

end Yaml
end BorrowChecker
