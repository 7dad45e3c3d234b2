import BorrowChecker.Body

namespace BorrowChecker

/-!
Diagnostics: violations and how they are shown.

A violation has a kind, a position and a wording.  Other failures may travel the
same way and are shown as internal errors.  Wrapping a failure puts text in front
of its wording; what kind of violation it is stays visible through the wrapping.
-/

/-- The rule a violation breaks.  Codes that belong to no rule are kept. -/
inductive Kind where
  | uninitUse
  | uninitWrite
  | sharedWrite
  | mutBorrowOfShared
  | missingOutlives
  | assignBorrowed
  | deinitBorrowed
  | returnBorrowedParam
  | useWhileBorrowed
  | borrowConflict
  | callDestBorrowed
  | moveOutOfBorrow
  | other (code : Int)
  deriving DecidableEq, Repr, Inhabited

namespace Kind

/-- The kinds of the rules, in the order of their codes, which start at one. -/
def rules : List Kind :=
  [uninitUse, uninitWrite, sharedWrite, mutBorrowOfShared, missingOutlives, assignBorrowed,
    deinitBorrowed, returnBorrowedParam, useWhileBorrowed, borrowConflict, callDestBorrowed,
    moveOutOfBorrow]

def ofCode (code : Int) : Kind := (memberAt rules (code - 1)).getD (other code)

def text : Kind → String
  | uninitUse => "uninit-use"
  | uninitWrite => "uninit-write"
  | sharedWrite => "shared-write"
  | mutBorrowOfShared => "mut-borrow-of-shared"
  | missingOutlives => "missing-outlives"
  | assignBorrowed => "assign-borrowed"
  | deinitBorrowed => "deinit-borrowed"
  | returnBorrowedParam => "return-borrowed-param"
  | useWhileBorrowed => "use-while-borrowed"
  | borrowConflict => "borrow-conflict"
  | callDestBorrowed => "call-dest-borrowed"
  | moveOutOfBorrow => "move-out-of-borrow"
  | other code => "Kind(" ++ toString code ++ ")"

end Kind

/-- A located violation of the borrow discipline. -/
structure Violation where
  loc : Loc
  kind : Kind
  message : String
  deriving DecidableEq, Repr, Inhabited

def Violation.text (violation : Violation) : String :=
  violation.loc.text ++ ": " ++ violation.message

/-- A failure to be shown: a violation or anything else, possibly wrapped. -/
inductive Diagnostic where
  | violation (violation : Violation)
  | plain (message : String)
  | wrapped (context : String) (inner : Diagnostic)
  deriving DecidableEq, Repr, Inhabited

namespace Diagnostic

/-- The wording of a failure, contexts first. -/
def text : Diagnostic → String
  | violation found => found.text
  | plain message => message
  | wrapped context inner => context ++ inner.text

/-- The violation inside a failure, if there is one. -/
def violation? : Diagnostic → Option Violation
  | violation found => some found
  | plain _ => none
  | wrapped _ inner => inner.violation?

/-- Whether a failure is a violation of the given kind. -/
def isKind (diagnostic : Diagnostic) (kind : Kind) : Bool :=
  diagnostic.violation?.any fun found => found.kind == kind

/-- The severity, in bold red if colors are wanted. -/
def severity (colored : Bool) (word : String) : String :=
  if colored then "\x1b[31;1m" ++ word ++ "\x1b[0;22m" else word

/-- The line shown to a reader. -/
def render (colored : Bool) (diagnostic : Diagnostic) : String :=
  match diagnostic.violation? with
  | some found =>
      found.loc.text ++ ": " ++ severity colored "error" ++ ": " ++ found.message ++
        " [" ++ found.kind.text ++ "]\n"
  | none => severity colored "internal error" ++ ": " ++ diagnostic.text ++ "\n"

end Diagnostic
end BorrowChecker
