import BorrowChecker.Body

namespace BorrowChecker

/-!
Structural validity of bodies.

A valid body has a program, typed locals with exactly one result among them, and
instructions whose labels, locals and arities are in order.  Validity says
nothing about types.  Where a body has several defects, the one that comes first
in the order of the tests below is reported.
-/

/-- The first thing wrong with the structure of a body. -/
inductive Defect where
  | noProgram
  | untypedLocal (name : String)
  | resultLocals (count : Nat)
  | emptyBody
  | entryOutOfRange (label : Int)
  | noInstruction (label : Nat)
  | strayJump (label : Nat) (target : Int)
  | unknownLocal (label : Nat) (position : Int)
  | unknownVictim (label : Nat) (position : Int)
  | unknownFunction (label : Nat) (name : String)
  | argumentCount (label : Nat) (name : String) (given expected : Nat)
  | unknownStruct (label : Nat) (name : String)
  | fieldCount (label : Nat) (name : String) (given expected : Nat)
  deriving DecidableEq, Repr, Inhabited

def Defect.message : Defect → String
  | noProgram => "no program"
  | untypedLocal name => s!"local {name} has no type"
  | resultLocals count => s!"{count} return locals"
  | emptyBody => "empty body"
  | entryOutOfRange label => s!"entry label {label} out of range"
  | noInstruction label => s!"label {label} has no instruction"
  | strayJump label target => s!"label {label} jumps to {target}"
  | unknownLocal label position => s!"label {label} refers to unknown local {position}"
  | unknownVictim label position => s!"label {label} deinitializes unknown local {position}"
  | unknownFunction label name => s!"label {label} calls unknown function {name}"
  | argumentCount label name given expected =>
      s!"label {label} calls {name} with {given} arguments, expected {expected}"
  | unknownStruct label name => s!"label {label} builds unknown struct {name}"
  | fieldCount label name given expected =>
      s!"label {label} builds {name} with {given} fields, expected {expected}"

/-- A defect together with the body it was found in. -/
structure Malformed where
  body : String
  defect : Defect
  deriving DecidableEq, Repr, Inhabited

/-- The report of a malformed body. -/
def Malformed.message (malformed : Malformed) : String :=
  "malformed MIR: " ++ malformed.body ++ ": " ++ malformed.defect.message

/-- Fail with a defect unless a condition holds. -/
def demand (condition : Bool) (defect : Defect) : Except Defect Unit :=
  if condition then .ok () else .error defect

namespace Body

def checkLocalTypes (body : Body) : Except Defect Unit :=
  body.locals.forM fun entry => demand (entry.type != .missing) (.untypedLocal entry.name)

/-- Declared names and arities of an instruction. -/
def checkArity (body : Body) (program : Program) (label : Nat) : Instr → Except Defect Unit
  | .deinit victim _ =>
      demand (inRange body.locals.length victim) (.unknownVictim label victim)
  | .call name arguments _ _ =>
      match program.function? name with
      | none => .error (.unknownFunction label name)
      | some signature =>
          demand (signature.parameters.length == arguments.length)
            (.argumentCount label name arguments.length signature.parameters.length)
  | .assign _ (.make name arguments) _ =>
      match program.struct? name with
      | none => .error (.unknownStruct label name)
      | some decl =>
          demand (decl.fields.length == arguments.length)
            (.fieldCount label name arguments.length decl.fields.length)
  | _ => .ok ()

/-- Jumps, locals and arities of the statement at a label. -/
def checkStmt (body : Body) (program : Program) (label : Nat) (stmt : Stmt) :
    Except Defect Unit :=
  match stmt.instr with
  | none => .error (.noInstruction label)
  | some instr => do
      instr.successors.forM fun next =>
        demand (inRange body.code.length next) (.strayJump label next)
      instr.places.forM fun place =>
        demand (inRange body.locals.length place.root) (.unknownLocal label place.root)
      body.checkArity program label instr

/-- The structural tests, in the order in which their defects are reported. -/
def checkStructure (body : Body) : Except Defect Unit := do
  let program ← match body.program with
    | some program => pure program
    | none => .error .noProgram
  body.checkLocalTypes
  let results := (body.localsOfKind .result).length
  demand (results == 1) (.resultLocals results)
  demand (!body.code.isEmpty) .emptyBody
  demand (inRange body.code.length body.entry) (.entryOutOfRange body.entry)
  body.labels.forM fun label =>
    match body.code[label]? with
    | some stmt => body.checkStmt program label stmt
    | none => .ok ()

/-- Accept a body whose structure is in order. -/
def validate (body : Body) : Except Malformed Unit :=
  match body.checkStructure with
  | .ok () => .ok ()
  | .error defect => .error { body := body.name, defect }

/-- The property that validation decides. -/
def IsValid (body : Body) : Prop := body.validate = .ok ()

end Body
end BorrowChecker
