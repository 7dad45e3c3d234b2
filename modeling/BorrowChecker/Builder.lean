import BorrowChecker.Validity

namespace BorrowChecker

/-!
Assembling a body instruction by instruction.

Every emitted instruction continues at the one emitted after it, unless it names
its targets itself.  Positions are made up: the body starts the file that
carries its name, and its instructions follow one to a line.
-/

/-- A body under construction and the lifetimes still unused in it. -/
structure Builder where
  body : Body
  supply : FreshSupply := {}
  deriving Inhabited

/-- A body that was declared complete although it is malformed. -/
structure Unfinished where
  cause : Malformed
  deriving DecidableEq, Repr

/-- The report of an unfinished body. -/
def Unfinished.message (unfinished : Unfinished) : String :=
  "build: " ++ unfinished.cause.message

namespace Builder

def start (program : Option Program) (name : String) : Builder :=
  { body := { name, program, loc := { file := name ++ ".rs", line := 1, column := 1 } } }

/-- A lifetime variable the builder has not given out before. -/
def fresh (builder : Builder) : Lifetime × Builder :=
  let (lifetime, supply) := builder.supply.next
  (lifetime, { builder with supply })

def generic (builder : Builder) (name : String) : Lifetime × Builder :=
  let lifetime := Lifetime.named name
  (lifetime,
    { builder with body.generics := builder.body.generics ++ [lifetime] })

/-- Declare in the signature that one lifetime outlives another. -/
def outlives (builder : Builder) (demand : Outlives) : Builder :=
  { builder with body.outlives := builder.body.outlives ++ [demand] }

/-- Declare a local, and return its position. -/
def declare (builder : Builder) (name : String) (kind : LocalKind) (type : Ty) :
    Nat × Builder :=
  (builder.body.locals.length,
    { builder with body.locals := builder.body.locals ++ [{ name, kind, type }] })

/-- Declare the local that holds the result. -/
def declareResult (builder : Builder) (type : Ty) : Nat × Builder :=
  builder.declare "_ret" .result type

/-- The label of the instruction emitted next. -/
def nextLabel (builder : Builder) : Nat := builder.body.code.length

/-- The label an instruction emitted now continues at. -/
def followingLabel (builder : Builder) : Int := (builder.nextLabel + 1 : Nat)

/-- Append an instruction, and return its label. -/
def emit (builder : Builder) (instr : Instr) : Nat × Builder :=
  let label := builder.nextLabel
  let loc : Loc := { file := builder.body.loc.file, line := (label + 2 : Nat), column := 5 }
  (label, { builder with body.code := builder.body.code ++ [{ instr := some instr, loc }] })

def assign (builder : Builder) (target : Place) (source : Rvalue) : Nat × Builder :=
  builder.emit (.assign target source builder.followingLabel)

def deinit (builder : Builder) (victim : Int) : Nat × Builder :=
  builder.emit (.deinit victim builder.followingLabel)

def call (builder : Builder) (target : Place) (function : String) (arguments : List Int) :
    Nat × Builder :=
  builder.emit (.call function arguments target builder.followingLabel)

/-- Replace the instruction at a label and keep its position.  This closes
loops and forward branches once their targets are known. -/
def patch (builder : Builder) (label : Int) (instr : Option Instr) : Except Fault Builder := do
  let stmt ← requireAt builder.body.code label
  return { builder with
    body.code := builder.body.code.set label.toNat { stmt with instr } }

def finish (builder : Builder) : Except Malformed Body := do
  builder.body.validate
  return builder.body

/-- The finished body of a builder that is claimed to be complete. -/
def complete (builder : Builder) : Except Unfinished Body :=
  match builder.finish with
  | .ok body => .ok body
  | .error cause => .error { cause }

end Builder
end BorrowChecker
