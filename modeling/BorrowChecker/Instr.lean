import BorrowChecker.Place
import BorrowChecker.Ty

namespace BorrowChecker

/-!
Instructions of a body.

Every instruction sits at a label and names the labels it may continue at.
Labels, locals and field numbers are signed because nothing has checked them
yet.  The places an instruction reads, in the order it reads them, and the one
place it writes are all that the later analyses ask of it.
-/

/-- The right-hand side of an assignment.  `missing` stands for one that was
left out. -/
inductive Rvalue where
  | use (place : Place)
  | borrow (mutability : Mutability) (place : Place)
  | const (value : Int)
  | unit
  | unary (operator : String) (operand : Place)
  | binary (operator : String) (left right : Place)
  | make (struct : String) (arguments : List Int)
  | missing
  deriving DecidableEq, Repr, Inhabited

/-- An instruction.  A branch consumes its condition. -/
inductive Instr where
  | assign (target : Place) (source : Rvalue) (next : Int)
  | deinit (victim : Int) (next : Int)
  | goto (next : Int)
  | branch (condition : Int) (yes no : Int)
  | call (function : String) (arguments : List Int) (target : Place) (next : Int)
  | ret
  deriving DecidableEq, Repr, Inhabited

def numbersText (numbers : List Int) : String := bracketed (numbers.map toString)

namespace Rvalue

def text : Rvalue → String
  | use place => place.text
  | borrow .shared place => "&" ++ place.text
  | borrow .unique place => "&mut " ++ place.text
  | const value => toString value
  | unit => "()"
  | unary operator operand => operator ++ operand.text
  | binary operator left right => left.text ++ " " ++ operator ++ " " ++ right.text
  | make struct arguments => struct ++ numbersText arguments
  | missing => "<nil>"

/-- The places a right-hand side reads or borrows, in evaluation order. -/
def operands : Rvalue → List Place
  | use place => [place]
  | borrow _ place => [place]
  | unary _ operand => [operand]
  | binary _ left right => [left, right]
  | make _ arguments => arguments.map Place.ofLocal
  | const _ | unit | missing => []

/-- Whether a right-hand side only borrows its operand. -/
def isBorrow : Rvalue → Bool
  | borrow _ _ => true
  | _ => false

end Rvalue

namespace Instr

def text : Instr → String
  | assign target source next =>
      target.text ++ " = " ++ source.text ++ "; goto " ++ toString next
  | deinit victim next => "deinit _" ++ toString victim ++ "; goto " ++ toString next
  | goto next => "goto " ++ toString next
  | branch condition yes no =>
      "if _" ++ toString condition ++ " goto " ++ toString yes ++ " else " ++ toString no
  | call function arguments target next =>
      target.text ++ " = " ++ function ++ numbersText arguments ++ "; goto " ++ toString next
  | ret => "return"

/-- The labels control may flow to next, one for each way of leaving. -/
def successors : Instr → List Int
  | assign _ _ next => [next]
  | deinit _ next => [next]
  | goto next => [next]
  | branch _ yes no => [yes, no]
  | call _ _ _ next => [next]
  | ret => []

/-- The places an instruction reads, in evaluation order.  Borrowed places are
among them. -/
def operands : Instr → List Place
  | assign _ source _ => source.operands
  | call _ arguments _ _ => arguments.map Place.ofLocal
  | branch condition _ _ => [Place.ofLocal condition]
  | deinit _ _ | goto _ | ret => []

def target? : Instr → Option Place
  | assign target _ _ => some target
  | call _ _ target _ => some target
  | deinit _ _ | goto _ | branch _ _ _ | ret => none

/-- The places that occur in an instruction: what it reads, then what it
writes. -/
def places (instr : Instr) : List Place := instr.operands ++ instr.target?.toList

end Instr
end BorrowChecker
