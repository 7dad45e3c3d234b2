import BorrowChecker.Text.Symbol
import BorrowChecker.Yaml.Scalar
import BorrowChecker.Yaml.Source

namespace BorrowChecker
namespace Yaml

/-!
Tokens of a YAML text.

Tokens make the structure explicit that the text expresses by indentation: the
start and end of block collections are tokens of their own.  Whether a word is
the key of a mapping shows only at the colon after it, so a token that may start
a key is remembered until the colon is found or the line ends; the key mark is
then put in front of it.

Tokens are read on demand, because a text need not be well formed to its end for
its first document to be read.  Before a token is handed out, two more are read,
and as many as it takes to know whether the token starts a key.
-/

/-- A token. -/
inductive Token where
  | streamEnd
  | version (isSupported : Bool)
  | tagHandle (handle expansion : String)
  | documentStart
  | documentEnd
  | blockSequenceStart
  | blockMappingStart
  | blockEnd
  | flowSequenceStart
  | flowSequenceEnd
  | flowMappingStart
  | flowMappingEnd
  | blockItem
  | flowSeparator
  | key
  | value
  | alias (name : String)
  | anchor (name : String)
  | tag (handle suffix : String)
  | scalar (text : String) (isPlain : Bool)
  deriving DecidableEq, Repr, Inhabited

/-- A token that may turn out to start a key.  It has to if it stands where the
block around it expects one. -/
structure PossibleKey where
  position : Nat
  line : Nat
  column : Nat
  index : Nat
  isRequired : Bool
  /-- Whether the token is held back until it is known to start a key or not. -/
  isAwaited : Bool := true

/-- The place for the possible key of a collection. -/
structure KeySlot where
  /-- The token that was marked last, which is at first the one that opened the
  collection. -/
  latest : Nat := 0
  key : Option PossibleKey := none

/-- The key of a collection when an inner one is closed.  The token that was marked
last inside is no longer awaited.  If none was, that is the start of the inner
collection, and a colon behind it comes too late unless it follows at once. -/
def KeySlot.leave (outer inner : KeySlot) : KeySlot :=
  { outer with
    key := outer.key.map fun key =>
      { key with isAwaited := key.isAwaited && key.position != inner.latest } }

/-- The state of reading tokens.  There is one place for a possible key in each
flow collection around the cursor, and one in the block around them all. -/
structure Lexer where
  cursor : Cursor
  /-- The length of the text, which bounds the steps that reading it takes. -/
  size : Nat
  /-- Whether nothing behind the text can be looked at. -/
  isCut : Bool := false
  /-- How far lines lose their first character. -/
  markedLength : Nat := 0
  /-- How many tokens have been handed out. -/
  handedOut : Nat := 0
  tokens : List Token := []
  flowDepth : Nat := 0
  indent : Int := -1
  outerIndents : List Int := []
  blockDepth : Nat := 0
  keyAllowed : Bool := true
  slot : KeySlot := {}
  outerSlots : List KeySlot := []

namespace Lexer

/-- How deep collections of one style can be nested. -/
def greatestDepth : Nat := 10000

def inFlow (lexer : Lexer) : Bool := lexer.flowDepth != 0

def emit (lexer : Lexer) (token : Token) : Lexer :=
  { lexer with tokens := lexer.tokens ++ [token] }

def emitMark (lexer : Lexer) (token : Token) (length : Nat) : Lexer :=
  { lexer.emit token with cursor := lexer.cursor.skip length }

/-- The position of the token that is read next. -/
def position (lexer : Lexer) : Nat := lexer.handedOut + lexer.tokens.length

/-- Put a token in front of the one at a position, or at the end if that one was
handed out already. -/
def insertAt (lexer : Lexer) (position : Nat) (token : Token) : Lexer :=
  if position < lexer.handedOut then lexer.emit token
  else
    let place := position - lexer.handedOut
    { lexer with tokens := lexer.tokens.take place ++ [token] ++ lexer.tokens.drop place }

def clearKey (lexer : Lexer) : Lexer := { lexer with slot := { lexer.slot with key := none } }

/-- Forget a possible key.  One that was required is missed. -/
def dropKey (lexer : Lexer) : Option Lexer :=
  match lexer.slot.key with
  | some key => if key.isRequired then none else some lexer.clearKey
  | none => some lexer

/-- Remember that a key may start here. -/
def markKey (lexer : Lexer) : Option Lexer :=
  if lexer.keyAllowed then do
    let cleared ← lexer.dropKey
    let cursor := lexer.cursor
    let key : PossibleKey :=
      { position := lexer.position
        line := cursor.line, column := cursor.column, index := cursor.index
        isRequired := !lexer.inFlow && lexer.indent == (cursor.column : Int) }
    some { cleared with slot := { latest := key.position, key := some key } }
  else some lexer

/-- A possible key, if the cursor has not left its line and is not too far behind
it.  Losing a required key is an error. -/
def stillPossible (lexer : Lexer) (key : PossibleKey) : Option (Option PossibleKey) :=
  if key.line < lexer.cursor.line || key.index + 1024 < lexer.cursor.index then
    if key.isRequired then none else some none
  else some (some key)

/-- The possible key of the innermost collection, if it still is one. -/
def currentKey (lexer : Lexer) : Option (Option PossibleKey) :=
  match lexer.slot.key with
  | none => some none
  | some key => lexer.stillPossible key

/-- The key that is awaited at a position, among those of some collections from
the inside out. -/
def awaitedAt? (position : Nat) : List KeySlot → Option PossibleKey
  | [] => none
  | slot :: outer =>
      match slot.key with
      | none => awaitedAt? position outer
      | some key =>
          if key.position = position then if key.isAwaited then some key else none
          else if key.position < position then none
          else awaitedAt? position outer

/-- Whether the next token can be handed out. -/
def isReady (lexer : Lexer) : Option Bool :=
  if (lexer.tokens.drop 2).isEmpty then some false
  else
    match awaitedAt? lexer.handedOut (lexer.slot :: lexer.outerSlots) with
    | none => some true
    | some key => (lexer.stillPossible key).map Option.isNone

/-- Open a block collection at a column, unless one is open there.  Its token is
put at a position, or at the end. -/
def openBlock (lexer : Lexer) (column : Nat) (position : Option Nat) (token : Token) :
    Option Lexer :=
  if !lexer.inFlow && lexer.indent < (column : Int) then
    if lexer.blockDepth < greatestDepth then
      let opened := { lexer with
        indent := (column : Int), outerIndents := lexer.indent :: lexer.outerIndents
        blockDepth := lexer.blockDepth + 1 }
      match position with
      | some position => some (opened.insertAt position token)
      | none => some (opened.emit token)
    else none
  else some lexer

/-- Close the block collections that are indented further than a column. -/
def closeBlocks (column : Int) : List Int → Lexer → Lexer
  | [], lexer => lexer
  | outer :: others, lexer =>
      if lexer.indent > column then
        closeBlocks column others
          { lexer.emit .blockEnd with
            indent := outer, outerIndents := others, blockDepth := lexer.blockDepth - 1 }
      else lexer

/-- Close the block collections that are indented further than a column, unless
the cursor is inside a flow collection. -/
def unindent (lexer : Lexer) (column : Int) : Lexer :=
  if lexer.inFlow then lexer else closeBlocks column lexer.outerIndents lexer

/-- Move past blanks, comments and line ends.  Tabs are no indentation: they are
blanks only where no key can start. -/
def skipToToken : Nat → Lexer → Lexer
  | 0, lexer => lexer
  | fuel + 1, lexer =>
      let isDropped := lexer.cursor.column == 0 && lexer.cursor.index + 1 < lexer.markedLength
      let start := if isDropped then lexer.cursor.skip 1 else lexer.cursor
      let tabs := lexer.inFlow || !lexer.keyAllowed
      let blank := start.skipRun fun c => c == ' ' || (tabs && c == '\t')
      let cursor := blank.skipComments (lexer.size + 1)
      if cursor.peek.any isBreak then
        skipToToken fuel
          { lexer with
            cursor := cursor.skipBreak
            keyAllowed := lexer.keyAllowed || !lexer.inFlow }
      else { lexer with cursor }

/-- Close everything before a document mark or a directive. -/
def leaveDocument (lexer : Lexer) : Option Lexer := do
  let closed ← (lexer.unindent (-1)).dropKey
  some { closed with keyAllowed := false }

/-- The end of the text, which also ends its line.  It can be read again and
again. -/
def finish (lexer : Lexer) : Option Lexer := do
  let closed ← lexer.leaveDocument
  some { closed.emit .streamEnd with cursor := closed.cursor.endLine }

/-! ## Directives -/

/-- A number of one or two digits. -/
def readVersionNumber (cursor : Cursor) : Option (Nat × Cursor) :=
  let (digits, next) := cursor.takeRun Char.isDigit
  if digits.isEmpty || 2 < digits.length then none
  else some (digits.foldl (fun value c => value * 10 + (c.toNat - '0'.toNat)) 0, next)

/-- A tag handle: a word between two exclamation marks, or one mark alone. -/
def readHandle (cursor : Cursor) : Option (List Char × Cursor) :=
  if cursor.sees '!' then
    let (word, next) := (cursor.skip 1).takeRun isWordChar
    if next.sees '!' then some ('!' :: word ++ ['!'], next.skip 1) else some ('!' :: word, next)
  else none

/-- Characters of a tag or of the expansion of a tag handle. -/
def isUriChar (c : Char) : Bool := isWordChar c || ";/?:@&=+$.!~*'()%[],".toList.contains c

/-- Decode the escaped bytes of a tag.  They have to come in groups that look like
the bytes of a character, of which `due` are still to follow.  Each byte becomes a
character of its own, since tags are only ever compared. -/
def decodeUri : (due : Nat) → List Char → Option (List Char)
  | due, [] => if due = 0 then some [] else none
  | due, '%' :: high :: low :: rest => do
      let byte := UInt8.ofNat (← hexNumber? [high, low])
      let following ←
        if due = 0 then (Text.lead? byte).map Prod.fst
        else if Text.isTrail byte then some (due - 1)
        else none
      return Char.ofNat byte.toNat :: (← decodeUri following rest)
  | due, c :: rest => if due = 0 && c != '%' then (decodeUri 0 rest).map (c :: ·) else none

/-- A tag or the expansion of a tag handle. -/
def readUri (cursor : Cursor) : Option (List Char × Cursor) := do
  let (raw, next) := cursor.takeRun isUriChar
  some (← decodeUri 0 raw, next)

/-- What follows the name of a directive. -/
def readDirectiveValue (name : List Char) (cursor : Cursor) : Option (Token × Cursor) := do
  let start := cursor.skipRun isBlank
  if name = "YAML".toList then
    let (major, dot) ← readVersionNumber start
    if dot.sees '.' then
      let (minor, next) ← readVersionNumber (dot.skip 1)
      some (.version (major == 1 && minor == 1), next)
    else none
  else if name = "TAG".toList then
    let (handle, next) ← readHandle start
    let isHandle := handle = ['!'] || (handle.length > 1 && handle.getLast? == some '!')
    if isHandle && next.peek.any isBlank then
      let (expansion, after) ← readUri (next.skipRun isBlank)
      if expansion.isEmpty || !isGap after.peek then none
      else some (.tagHandle (String.ofList handle) (String.ofList expansion), after)
    else none
  else none

/-- A directive, which has a line of its own. -/
def readDirective (lexer : Lexer) : Option Lexer := do
  let closed ← lexer.leaveDocument
  let (name, next) := (closed.cursor.skip 1).takeRun isWordChar
  if name.isEmpty || !isGap next.peek then none
  else
    let (token, after) ← readDirectiveValue name next
    let lineEnd := (after.skipRun isBlank).skipComment
    if isLineEnd lineEnd.peek then
      some { closed.emit token with cursor := lineEnd.skipBreak }
    else none

/-! ## Collections -/

def openFlow (lexer : Lexer) (token : Token) : Option Lexer := do
  let marked ← lexer.markKey
  if marked.flowDepth < greatestDepth then
    some ({ marked with
      flowDepth := marked.flowDepth + 1
      slot := { latest := lexer.position }
      outerSlots := marked.slot :: marked.outerSlots
      keyAllowed := true }.emitMark token 1)
  else none

def closeFlow (lexer : Lexer) (token : Token) : Option Lexer := do
  let cleared ← lexer.dropKey
  let left := match cleared.outerSlots with
    | outer :: others =>
        { cleared with
          flowDepth := cleared.flowDepth - 1
          slot := outer.leave cleared.slot
          outerSlots := others }
    | [] => cleared
  some ({ left with keyAllowed := false }.emitMark token 1)

/-- The comma of a flow collection. -/
def separate (lexer : Lexer) : Option Lexer := do
  let cleared ← lexer.dropKey
  some ({ cleared with keyAllowed := true }.emitMark .flowSeparator 1)

/-- The dash of a block sequence. -/
def blockItem (lexer : Lexer) : Option Lexer := do
  if !lexer.inFlow && !lexer.keyAllowed then none
  else
    let opened ← lexer.openBlock lexer.cursor.column none .blockSequenceStart
    let cleared ← opened.dropKey
    some ({ cleared with keyAllowed := true }.emitMark .blockItem 1)

/-- The question mark of an explicit key. -/
def explicitKey (lexer : Lexer) : Option Lexer := do
  if !lexer.inFlow && !lexer.keyAllowed then none
  else
    let opened ← lexer.openBlock lexer.cursor.column none .blockMappingStart
    let cleared ← opened.dropKey
    some ({ cleared with keyAllowed := !lexer.inFlow }.emitMark .key 1)

/-- The colon between a key and its value.  If a key is pending its mark goes in
front of it, and so does the start of the mapping it opens. -/
def mappingValue (lexer : Lexer) : Option Lexer := do
  match ← lexer.currentKey with
  | some key =>
      let opened ← (lexer.insertAt key.position .key).openBlock key.column (some key.position)
        .blockMappingStart
      some ({ opened.clearKey with keyAllowed := false }.emitMark .value 1)
  | none =>
      if !lexer.inFlow && !lexer.keyAllowed then none
      else
        let opened ← lexer.openBlock lexer.cursor.column none .blockMappingStart
        some ({ opened.clearKey with keyAllowed := !lexer.inFlow }.emitMark .value 1)

/-! ## Names and scalars -/

/-- Whether the name of an anchor can end before a character. -/
def endsName (c : Option Char) : Bool :=
  isGap c || c.any fun c => "?:,]\x7d%@\x60".toList.contains c

def named (lexer : Lexer) (token : String → Token) : Option Lexer := do
  let marked ← lexer.markKey
  let (name, next) := (lexer.cursor.skip 1).takeRun isWordChar
  if name.isEmpty || !endsName next.peek then none
  else some { marked.emit (token (String.ofList name)) with cursor := next, keyAllowed := false }

/-- The parts of a tag: its handle and the rest. -/
def readTag (cursor : Cursor) : Option (String × String × Cursor) := do
  if cursor.ahead 1 == some '<' then
    let (uri, next) ← readUri (cursor.skip 2)
    if uri.isEmpty || !next.sees '>' then none
    else some ("", String.ofList uri, next.skip 1)
  else
    let (handle, next) ← readHandle cursor
    if handle.length > 1 && handle.getLast? == some '!' then
      let (suffix, after) ← readUri next
      if suffix.isEmpty then none
      else some (String.ofList handle, String.ofList suffix, after)
    else
      let (suffix, after) ← readUri next
      let rest := handle.drop 1 ++ suffix
      if rest.isEmpty then some ("", "!", after) else some ("!", String.ofList rest, after)

def tagged (lexer : Lexer) : Option Lexer := do
  let marked ← lexer.markKey
  let (handle, suffix, next) ← readTag lexer.cursor
  if isGap next.peek then
    some { marked.emit (.tag handle suffix) with cursor := next, keyAllowed := false }
  else none

/-- A scalar after it was read. -/
def emitScalar (lexer : Lexer) (scalar : ReadScalar) (isPlain : Bool) : Lexer :=
  { lexer.emit (.scalar (String.ofList scalar.text) isPlain) with
    cursor := scalar.cursor, keyAllowed := scalar.endsLine }

def blockScalar (lexer : Lexer) (literal : Bool) : Option Lexer := do
  let cleared ← lexer.dropKey
  let scalar ← readBlock literal lexer.indent lexer.size (lexer.cursor.skip 1)
  some (cleared.emitScalar scalar false)

def quotedScalar (lexer : Lexer) (quote : Char) : Option Lexer := do
  let marked ← lexer.markKey
  let scalar ← readQuoted quote (lexer.size + 1) [] (lexer.cursor.skip 1)
  some (marked.emitScalar scalar false)

def plainScalar (lexer : Lexer) : Option Lexer := do
  let marked ← lexer.markKey
  let scalar ← readPlain lexer.inFlow (lexer.indent + 1).toNat (lexer.size + 1) [] {}
    lexer.cursor
  some (marked.emitScalar scalar true)

/-- Whether a plain scalar can start with a character, given the one after it. -/
def startsPlain (inFlow : Bool) (c : Char) (next : Option Char) : Bool :=
  !(isBlank c || isBreak c || "-?:,[]\x7b\x7d#&*!|>'\"%@\x60".toList.contains c) ||
    (c == '-' && !next.any isBlank) ||
    (!inFlow && (c == '?' || c == ':') && !isGap next)

/-! ## The next token -/

/-- Read the token that starts with a character. -/
def dispatch (lexer : Lexer) (c : Char) : Option Lexer :=
  let next := lexer.cursor.ahead 1
  let loose := lexer.inFlow || isGap next
  if c == '[' then lexer.openFlow .flowSequenceStart
  else if c == '\x7b' then lexer.openFlow .flowMappingStart
  else if c == ']' then lexer.closeFlow .flowSequenceEnd
  else if c == '\x7d' then lexer.closeFlow .flowMappingEnd
  else if c == ',' then lexer.separate
  else if c == '-' && isGap next then lexer.blockItem
  else if c == '?' && loose then lexer.explicitKey
  else if c == ':' && loose then lexer.mappingValue
  else if c == '*' then lexer.named .alias
  else if c == '&' then lexer.named .anchor
  else if c == '!' then lexer.tagged
  else if c == '|' && !lexer.inFlow then lexer.blockScalar true
  else if c == '>' && !lexer.inFlow then lexer.blockScalar false
  else if c == '\'' || c == '"' then lexer.quotedScalar c
  else if startsPlain lexer.inFlow c next then lexer.plainScalar
  else none

/-- Whether a comment can follow the last token on its line.  After a dash, and
after a scalar that reaches into the next line, it belongs to what comes next. -/
def takesComment (lexer : Lexer) : Bool :=
  match lexer.tokens.getLast? with
  | some .blockItem => false
  | some (.scalar _ _) => !lexer.keyAllowed
  | _ => true

/-- Move past a comment that follows the last token. -/
def skipTrailingComment (lexer : Lexer) : Lexer :=
  if lexer.takesComment then { lexer with cursor := lexer.cursor.skipLineComment } else lexer

/-- Whether fewer than so many characters are left of a text that is cut. -/
def runsOut (lexer : Lexer) (count : Nat) : Bool :=
  lexer.isCut && (lexer.cursor.rest.drop (count - 1)).isEmpty

def readToken (lexer : Lexer) : Option Lexer :=
  match lexer.cursor.peek with
  | none => lexer.finish
  | some c =>
      if lexer.cursor.column == 0 && c == '%' then lexer.readDirective
      else if lexer.cursor.seesMarks '-' then
        lexer.leaveDocument.map fun closed => closed.emitMark .documentStart 3
      else if lexer.cursor.seesMarks '.' then
        lexer.leaveDocument.map fun closed => closed.emitMark .documentEnd 3
      else (lexer.dispatch c).map skipTrailingComment

/-- Read the next token, or the tokens that come with it.  Four characters are
looked at to tell what it is, and two at its end. -/
def step (lexer : Lexer) : Option Lexer := do
  let found := skipToToken (lexer.size + 1) lexer
  if found.runsOut 4 then none
  else
    let next ← (found.unindent (found.cursor.column : Int)).readToken
    if next.runsOut 2 then none else some next

/-- Read tokens until the next one can be handed out. -/
def fill : Nat → Lexer → Option Lexer
  | 0, _ => none
  | fuel + 1, lexer => do
      if ← lexer.isReady then some lexer else fill fuel (← lexer.step)

/-- Start reading a text. -/
def ofText (text : List Char) : Lexer :=
  let source := Source.ofText text
  { cursor := { rest := source.content }
    size := source.content.length
    isCut := source.isCut
    markedLength := source.markedLength }

/-- The next token.  Every token but the last one takes up a character, so the
length of the text bounds the number of tokens to be read. -/
def peek (lexer : Lexer) : Option (Token × Lexer) := do
  let ready ← lexer.fill (lexer.size + 4)
  return (ready.tokens.headD .streamEnd, ready)

def skip (lexer : Lexer) : Lexer :=
  { lexer with tokens := lexer.tokens.drop 1, handedOut := lexer.handedOut + 1 }

end Lexer
end Yaml
end BorrowChecker
