namespace BorrowChecker
namespace Yaml

/-!
Reading positions in a YAML text.

A cursor is the text that is left, together with the line and column reached.
Indentation is what gives YAML text its structure, so every way of moving a
cursor keeps track of the column.
-/

/-- Characters that end a line. -/
def isBreak (c : Char) : Bool :=
  c == '\r' || c == '\n' || c == '\u0085' || c == '\u2028' || c == '\u2029'

/-- Characters that separate words within a line. -/
def isBlank (c : Char) : Bool := c == ' ' || c == '\t'

/-- The end of the text, or a character that satisfies a condition. -/
def endOr (condition : Char → Bool) : Option Char → Bool
  | none => true
  | some c => condition c

/-- The end of the text, a line end or a blank. -/
def isGap (c : Option Char) : Bool := endOr (fun c => isBlank c || isBreak c) c

/-- The end of the text or a line end. -/
def isLineEnd (c : Option Char) : Bool := endOr isBreak c

/-- Characters of names of anchors and tag handles. -/
def isWordChar (c : Char) : Bool := c.isAlphanum || c == '_' || c == '-'

/-- A position in a text. -/
structure Cursor where
  rest : List Char
  line : Nat := 0
  column : Nat := 0
  index : Nat := 0

namespace Cursor

def peek (cursor : Cursor) : Option Char := cursor.rest.head?

def ahead (cursor : Cursor) (distance : Nat) : Option Char := cursor.rest[distance]?

def sees (cursor : Cursor) (c : Char) : Bool := cursor.peek == some c

/-- Move past characters that do not end a line. -/
def skip (cursor : Cursor) (count : Nat) : Cursor :=
  { cursor with
    rest := cursor.rest.drop count
    column := cursor.column + count
    index := cursor.index + count }

/-- Move past a line end of so many characters. -/
def newLine (cursor : Cursor) (length : Nat) : Cursor :=
  { rest := cursor.rest.drop length
    line := cursor.line + 1
    column := 0
    index := cursor.index + length }

/-- Start a new line, unless the cursor is at the start of one. -/
def endLine (cursor : Cursor) : Cursor :=
  if cursor.column == 0 then cursor else cursor.newLine 0

/-- Move past a line end, and say what it contributes to a text: the two
Unicode separators stand for themselves, all others for a line feed. -/
def readBreak (cursor : Cursor) : List Char × Cursor :=
  match cursor.rest with
  | '\r' :: '\n' :: _ => (['\n'], cursor.newLine 2)
  | c :: _ =>
      if c == '\u2028' || c == '\u2029' then ([c], cursor.newLine 1)
      else if isBreak c then (['\n'], cursor.newLine 1)
      else ([], cursor)
  | [] => ([], cursor)

def skipBreak (cursor : Cursor) : Cursor := cursor.readBreak.2

/-- The longest run of characters that satisfy a condition, none of which ends a
line. -/
def takeRun (cursor : Cursor) (condition : Char → Bool) : List Char × Cursor :=
  let run := cursor.rest.takeWhile fun c => condition c && !isBreak c
  (run, cursor.skip run.length)

def skipRun (cursor : Cursor) (condition : Char → Bool) : Cursor := (cursor.takeRun condition).2

/-- Move past a comment, if one starts here. -/
def skipComment (cursor : Cursor) : Cursor :=
  if cursor.sees '#' then cursor.skipRun fun _ => true else cursor

/-- How far ahead a comment is looked for. -/
def commentReach : Nat := 512

/-- Move past a comment that nothing but blanks separate from the cursor. -/
def skipLineComment (cursor : Cursor) : Cursor :=
  let start := cursor.skipRun isBlank
  if start.sees '#' && start.index < cursor.index + commentReach then start.skipComment else cursor

/-- Move past so many blanks and line ends. -/
def skipBlankLines : Nat → Cursor → Cursor
  | 0, cursor => cursor
  | count + 1, cursor =>
      match cursor.peek with
      | some c =>
          if isBlank c then skipBlankLines count (cursor.skip 1)
          else if isBreak c then skipBlankLines count cursor.skipBreak
          else cursor
      | none => cursor

/-- The next comment after the end of a line, if only blanks and plain line ends
stand before it. -/
def nextComment? (cursor : Cursor) : Option Cursor :=
  let gap := cursor.rest.takeWhile fun c => isBlank c || c == '\r' || c == '\n'
  if cursor.peek.any isBreak && gap.length < commentReach && cursor.ahead gap.length == some '#'
  then some (skipBlankLines gap.length cursor)
  else none

/-- Move past a comment, if one starts here, and past the comments that follow
it.  Between them the lines may be indented in any way. -/
def skipComments : Nat → Cursor → Cursor
  | 0, cursor => cursor
  | fuel + 1, cursor =>
      if cursor.sees '#' then
        let lineEnd := cursor.skipComment
        match lineEnd.nextComment? with
        | some next => skipComments fuel next
        | none => lineEnd
      else cursor

/-- Whether a line of three equal marks starts here. -/
def seesMarks (cursor : Cursor) (mark : Char) : Bool :=
  cursor.column == 0 && cursor.rest.take 3 == [mark, mark, mark] && isGap (cursor.ahead 3)

/-- Whether a document starts or ends here. -/
def seesDocumentMark (cursor : Cursor) : Bool := cursor.seesMarks '-' || cursor.seesMarks '.'

end Cursor
end Yaml
end BorrowChecker
