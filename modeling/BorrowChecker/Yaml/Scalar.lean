import BorrowChecker.Yaml.Cursor

namespace BorrowChecker
namespace Yaml

/-!
The styles in which a YAML scalar is written: plain, quoted, and block.

Each reader starts at the first character of the scalar and returns its text and
the position after it, or nothing if the scalar is not well formed.  Readers
count down the characters left, of which every round uses up at least one.
-/

/-- What stands between two words of a scalar: blanks on one line, or line ends
of which the first one folds. -/
structure Gap where
  blanks : List Char := []
  firstBreak : Option (List Char) := none
  laterBreaks : List Char := []

namespace Gap

/-- What a gap contributes to the text.  A single line feed folds into a
blank. -/
def text (gap : Gap) : List Char :=
  match gap.firstBreak with
  | none => gap.blanks
  | some first =>
      if first = ['\n'] then
        if gap.laterBreaks.isEmpty then [' '] else gap.laterBreaks
      else first ++ gap.laterBreaks

/-- Whether a gap reaches over the end of a line. -/
def hasBreak (gap : Gap) : Bool := gap.firstBreak.isSome

end Gap

/-- Read a gap.  A tab before column `indent` of a continued line is refused. -/
def readGap (indent : Nat) : Nat → Gap → Cursor → Option (Gap × Cursor)
  | 0, gap, cursor => some (gap, cursor)
  | fuel + 1, gap, cursor =>
      match cursor.peek with
      | none => some (gap, cursor)
      | some c =>
          if isBlank c then
            if gap.hasBreak then
              if c == '\t' && cursor.column < indent then none
              else readGap indent fuel gap (cursor.skip 1)
            else readGap indent fuel { gap with blanks := gap.blanks ++ [c] } (cursor.skip 1)
          else if isBreak c then
            let (line, next) := cursor.readBreak
            match gap.firstBreak with
            | none => readGap indent fuel { firstBreak := some line } next
            | some _ =>
                readGap indent fuel { gap with laterBreaks := gap.laterBreaks ++ line } next
          else some (gap, cursor)

/-- A scalar as it was read: its text, the position after it, and whether the
reader stopped at the start of a line. -/
structure ReadScalar where
  text : List Char
  cursor : Cursor
  endsLine : Bool := false

/-- The text made of some pieces, of which the last one comes first. -/
def joined (pieces : List (List Char)) : List Char := pieces.reverse.flatten

/-! ## Plain scalars -/

/-- Whether a plain scalar ends at a character, given the one after it. -/
def endsPlain (inFlow : Bool) (c : Char) (next : Option Char) : Bool :=
  (c == ':' && isGap next) ||
    (inFlow && (c == ',' || c == '?' || c == '[' || c == ']' || c == '\x7b' || c == '\x7d'))

/-- The characters of a plain scalar up to the next gap or its end. -/
def plainWord (inFlow : Bool) : List Char → List Char
  | [] => []
  | c :: rest =>
      if isBlank c || isBreak c || endsPlain inFlow c rest.head? then []
      else c :: plainWord inFlow rest

/-- Read the words of a plain scalar and the gaps between them.  `indent` is the
column a continued line has to reach. -/
def readPlain (inFlow : Bool) (indent : Nat) :
    Nat → (pieces : List (List Char)) → Gap → Cursor → Option ReadScalar
  | 0, pieces, gap, cursor => some { text := joined pieces, cursor, endsLine := gap.hasBreak }
  | fuel + 1, pieces, gap, cursor =>
      if cursor.seesDocumentMark || cursor.sees '#' then
        some { text := joined pieces, cursor, endsLine := gap.hasBreak }
      else
        let word := plainWord inFlow cursor.rest
        let next := cursor.skip word.length
        let (pieces, gap) :=
          if word.isEmpty then (pieces, gap) else (word :: gap.text :: pieces, {})
        if !isGap next.peek || next.peek.isNone then
          some { text := joined pieces, cursor := next, endsLine := gap.hasBreak }
        else do
          let (gap, after) ← readGap indent (fuel + 1) gap next
          if !inFlow && after.column < indent then
            some { text := joined pieces, cursor := after, endsLine := gap.hasBreak }
          else readPlain inFlow indent fuel pieces gap after

/-! ## Quoted scalars -/

def hexDigit? (c : Char) : Option Nat :=
  if c.isDigit then some (c.toNat - '0'.toNat)
  else if 'a' ≤ c && c ≤ 'f' then some (c.toNat - 'a'.toNat + 10)
  else if 'A' ≤ c && c ≤ 'F' then some (c.toNat - 'A'.toNat + 10)
  else none

/-- The number written by a run of hexadecimal digits. -/
def hexNumber? (digits : List Char) : Option Nat :=
  digits.foldlM (fun value c => (hexDigit? c).map fun digit => value * 16 + digit) 0

/-- The character with a code written in `count` hexadecimal digits. -/
def hexChar? (rest : List Char) (count : Nat) : Option Char := do
  let digits := rest.take count
  if digits.length = count then
    let code ← hexNumber? digits
    if (0xD800 ≤ code && code ≤ 0xDFFF) || 0x10FFFF < code then none else some (Char.ofNat code)
  else none

/-- The character an escape stands for, and how many characters follow the
backslash. -/
def escape? : List Char → Option (Char × Nat)
  | '0' :: _ => some ('\x00', 1)
  | 'a' :: _ => some ('\x07', 1)
  | 'b' :: _ => some ('\x08', 1)
  | 't' :: _ => some ('\t', 1)
  | '\t' :: _ => some ('\t', 1)
  | 'n' :: _ => some ('\n', 1)
  | 'v' :: _ => some ('\x0b', 1)
  | 'f' :: _ => some ('\x0c', 1)
  | 'r' :: _ => some ('\r', 1)
  | 'e' :: _ => some ('\x1b', 1)
  | ' ' :: _ => some (' ', 1)
  | '"' :: _ => some ('"', 1)
  | '\'' :: _ => some ('\'', 1)
  | '\\' :: _ => some ('\\', 1)
  | 'N' :: _ => some ('\u0085', 1)
  | '_' :: _ => some ('\u00a0', 1)
  | 'L' :: _ => some ('\u2028', 1)
  | 'P' :: _ => some ('\u2029', 1)
  | 'x' :: rest => (hexChar? rest 2).map fun c => (c, 3)
  | 'u' :: rest => (hexChar? rest 4).map fun c => (c, 5)
  | 'U' :: rest => (hexChar? rest 8).map fun c => (c, 9)
  | _ => none

/-- How the words of a quoted scalar end. -/
inductive WordEnd where
  | gap
  | escapedBreak

/-- Whether a character of a quoted scalar stands for itself. -/
def isOrdinary (quote c : Char) : Bool := !(isBlank c || isBreak c || c == quote || c == '\\')

/-- Read the characters of a quoted scalar up to the next gap or the closing
quote.  A backslash before a line end joins the lines. -/
def readQuotedWord (quote : Char) :
    Nat → (pieces : List (List Char)) → Cursor → Option (List (List Char) × WordEnd × Cursor)
  | 0, pieces, cursor => some (pieces, .gap, cursor)
  | fuel + 1, pieces, cursor =>
      let (run, next) := cursor.takeRun (isOrdinary quote)
      let pieces := run :: pieces
      match next.peek with
      | none => some (pieces, .gap, next)
      | some c =>
          if isBlank c || isBreak c then some (pieces, .gap, next)
          else if c == quote then
            if quote == '\'' && next.ahead 1 == some '\'' then
              readQuotedWord quote fuel (['\''] :: pieces) (next.skip 2)
            else some (pieces, .gap, next)
          else if quote == '"' then
            if (next.ahead 1).any isBreak then
              some (pieces, .escapedBreak, (next.skip 1).skipBreak)
            else do
              let (value, length) ← escape? (next.rest.drop 1)
              readQuotedWord quote fuel ([value] :: pieces) (next.skip (length + 1))
          else readQuotedWord quote fuel ([c] :: pieces) (next.skip 1)

def readQuoted (quote : Char) : Nat → (pieces : List (List Char)) → Cursor → Option ReadScalar
  | 0, _, _ => none
  | fuel + 1, pieces, cursor =>
      if cursor.seesDocumentMark || cursor.rest.isEmpty then none
      else do
        let (pieces, wordEnd, next) ← readQuotedWord quote (fuel + 1) pieces cursor
        if next.sees quote then some { text := joined pieces, cursor := next.skip 1 }
        else
          let start : Gap := match wordEnd with
            | .gap => {}
            | .escapedBreak => { firstBreak := some [] }
          let (gap, after) ← readGap 0 (fuel + 1) start next
          readQuoted quote fuel (gap.text :: pieces) after

/-! ## Block scalars -/

/-- What becomes of the line ends at the end of a block scalar. -/
inductive Chomping where
  | strip
  | clip
  | keep
  deriving DecidableEq

/-- The indicators after the mark of a block scalar: how to end it, and how far
it is indented if that is given. -/
structure BlockHeader where
  chomping : Chomping := .clip
  increment : Nat := 0

def readChomping (header : BlockHeader) (cursor : Cursor) : BlockHeader × Cursor :=
  if cursor.sees '+' then ({ header with chomping := .keep }, cursor.skip 1)
  else if cursor.sees '-' then ({ header with chomping := .strip }, cursor.skip 1)
  else (header, cursor)

/-- Read an indentation indicator, which cannot be zero. -/
def readIncrement (header : BlockHeader) (cursor : Cursor) : Option (BlockHeader × Cursor) :=
  match cursor.peek with
  | some c =>
      if c == '0' then none
      else if c.isDigit then
        some ({ header with increment := c.toNat - '0'.toNat }, cursor.skip 1)
      else some (header, cursor)
  | none => some (header, cursor)

/-- Read the indicators of a block scalar, in either order. -/
def readBlockHeader (cursor : Cursor) : Option (BlockHeader × Cursor) := do
  if cursor.sees '+' || cursor.sees '-' then
    let (header, next) := readChomping {} cursor
    readIncrement header next
  else
    let (header, next) ← readIncrement {} cursor
    if header.increment = 0 then some (header, next) else some (readChomping header next)

/-- Read empty lines and indentation up to the next line with content.  While
the indentation is not known it is as wide as it gets; the widest one is
returned. -/
def readIndentation (indent : Option Nat) :
    Nat → (widest : Nat) → (breaks : List Char) → Cursor → Option (Nat × List Char × Cursor)
  | 0, widest, breaks, cursor => some (widest, breaks, cursor)
  | fuel + 1, widest, breaks, cursor =>
      let spaces := (cursor.rest.takeWhile (· == ' ')).length
      let width := match indent with
        | none => spaces
        | some column => min spaces (column - cursor.column)
      let next := cursor.skip width
      let widest := max widest next.column
      let within := match indent with
        | none => true
        | some column => next.column < column
      if within && next.sees '\t' then none
      else if next.peek.any isBreak then
        let (line, after) := next.readBreak
        readIndentation indent fuel widest (breaks ++ line) after
      else some (widest, breaks, next)

/-- A block scalar under way: the pieces of its text, the line end after the last
line, the empty lines after that, and whether the last line began with a
blank. -/
structure BlockState where
  pieces : List (List Char) := []
  lineEnd : List Char := []
  emptyLines : List Char := []
  afterBlank : Bool := false

/-- What stands between the last line and the next one.  In a folded scalar a
line feed between two lines that begin with no blank becomes a blank, or
nothing if empty lines follow it. -/
def BlockState.joint (state : BlockState) (literal startsBlank : Bool) : List Char :=
  if !literal && !state.afterBlank && !startsBlank && state.lineEnd = ['\n'] then
    if state.emptyLines.isEmpty then [' '] else state.emptyLines
  else state.lineEnd ++ state.emptyLines

def readBlockLines (literal : Bool) (indent : Nat) :
    Nat → BlockState → Cursor → Option (BlockState × Cursor)
  | 0, state, cursor => some (state, cursor)
  | fuel + 1, state, cursor =>
      if cursor.column = indent && !cursor.rest.isEmpty then do
        let startsBlank := cursor.peek.any isBlank
        let (line, next) := cursor.takeRun fun _ => true
        let (lineEnd, after) := next.readBreak
        let (_, emptyLines, after) ← readIndentation (some indent) (fuel + 1) 0 [] after
        readBlockLines literal indent fuel
          { pieces := line :: state.joint literal startsBlank :: state.pieces
            lineEnd, emptyLines, afterBlank := startsBlank } after
      else some (state, cursor)

def BlockState.finish (state : BlockState) : Chomping → List Char
  | .strip => joined state.pieces
  | .clip => joined state.pieces ++ state.lineEnd
  | .keep => joined state.pieces ++ state.lineEnd ++ state.emptyLines

/-- Read a block scalar after its mark, inside a block that is indented to
`parent`.  No more than `fuel` characters are left. -/
def readBlock (literal : Bool) (parent : Int) (fuel : Nat) (cursor : Cursor) :
    Option ReadScalar := do
  let (header, next) ← readBlockHeader cursor
  let next := (next.skipRun isBlank).skipComment
  if !isLineEnd next.peek then none
  else
    let start := next.skipBreak
    let given := if header.increment = 0 then none
      else some ((max parent 0).toNat + header.increment)
    let (widest, emptyLines, body) ← readIndentation given (fuel + 1) 0 [] start
    let indent := given.getD (max (max widest (parent + 1).toNat) 1)
    let (state, after) ← readBlockLines literal indent (fuel + 1) { emptyLines } body
    some { text := state.finish header.chomping, cursor := after, endsLine := true }

end Yaml
end BorrowChecker
