import BorrowChecker.Instr
import BorrowChecker.Program

namespace BorrowChecker

/-!
Function bodies and the types of their places.

A body is a list of locals and a list of located instructions, together with
the lifetime part of its signature.  It may be incomplete: the program, a type
or an instruction can be absent.  Typing follows an access path from its local,
and says for which step it fails.
-/

/-- A position in the source text. -/
structure Loc where
  file : String := ""
  line : Int := 0
  column : Int := 0
  deriving DecidableEq, Repr, Inhabited

/-- The printed form of a position.  An unnamed file is not mentioned. -/
def Loc.text (loc : Loc) : String :=
  let position := toString loc.line ++ ":" ++ toString loc.column
  if loc.file = "" then position else loc.file ++ ":" ++ position

/-- What a local is for. -/
inductive LocalKind where
  | temporary
  | parameter
  | result
  deriving DecidableEq, Repr, Inhabited

/-- A local variable of a body. -/
structure Local where
  name : String
  kind : LocalKind := .temporary
  type : Ty
  deriving DecidableEq, Repr, Inhabited

/-- A located instruction. -/
structure Stmt where
  instr : Option Instr
  loc : Loc := {}
  deriving DecidableEq, Repr, Inhabited

/-- The body of one function.  `outlives` lists the lifetime relations its
signature declares. -/
structure Body where
  name : String := ""
  program : Option Program := none
  locals : List Local := []
  entry : Int := 0
  code : List Stmt := []
  generics : List Lifetime := []
  outlives : List Outlives := []
  loc : Loc := {}
  deriving Repr, Inhabited

namespace Body

def instr? (body : Body) (label : Nat) : Option Instr :=
  body.code[label]?.bind Stmt.instr

def labels (body : Body) : List Nat := List.range body.code.length

/-- The program of a body that has to have one. -/
def requireProgram (body : Body) : Except Fault Program :=
  match body.program with
  | some program => .ok program
  | none => .error .absent

/-- The positions of the locals of some kind. -/
def localsOfKind (body : Body) (kind : LocalKind) : List Nat :=
  (List.range body.locals.length).filter fun position =>
    body.locals[position]?.any (·.kind == kind)

def parameters (body : Body) : List Nat := body.localsOfKind .parameter

/-- The local that holds the result: the first one of that kind. -/
def returnLocal? (body : Body) : Option Nat := (body.localsOfKind .result).head?

/-- The local that holds the result, in a body that has to have one. -/
def returnLocal (body : Body) : Except Fault Nat :=
  match body.returnLocal? with
  | some position => .ok position
  | none => .error (.noReturnLocal body.name)

/-- The highest inference number among local types and generics, or zero if
there is no positive one. -/
def highestNumber (body : Body) : Int :=
  let fromLocals := body.locals.foldl (fun highest entry => max highest entry.type.highestNumber) 0
  body.generics.foldl (fun highest lifetime => max highest lifetime.number) fromLocals

def localType (body : Body) (position : Int) : Except Fault Ty :=
  return (← requireAt body.locals position).type

/-- The type one step further along the path of `place`. -/
def stepType (body : Body) (place : Place) (type : Ty) : Step → Except Fault Ty
  | .deref =>
      match type with
      | .borrow _ _ target => .ok target
      | other => .error (.derefOfNonBorrow other place)
  | .field index =>
      match type with
      | .struct name arguments => do
          let fields ← (← body.requireProgram).fieldTypes name arguments
          match memberAt fields index with
          | some field => .ok field
          | none => .error (.fieldOutOfRange index type place)
      | other => .error (.fieldOfNonStruct other place)

def typeOf (body : Body) (place : Place) : Except Fault Ty := do
  place.path.foldlM (body.stepType place) (← body.localType place.root)

/-- Whether a path stays writable: no step follows a shared borrow.  The first
such step decides, even if the path does not type-check after it. -/
def pathIsWritable (body : Body) (place : Place) : Ty → List Step → Except Fault Bool
  | _, [] => .ok true
  | .borrow _ .shared _, .deref :: _ => .ok false
  | type, step :: rest => do
      body.pathIsWritable place (← body.stepType place type step) rest

def isWritable (body : Body) (place : Place) : Except Fault Bool := do
  body.pathIsWritable place (← body.localType place.root) place.path

/-- Whether using a place copies its value. -/
def isCopyable (body : Body) (place : Place) : Except Fault Bool := do
  let type ← body.typeOf place
  (← body.requireProgram).isCopyable type

/-- The declaration of the structure stored at a place. -/
def structAt (body : Body) (place : Place) : Except Fault StructDecl := do
  match ← body.typeOf place with
  | .struct name _ => (← body.requireProgram).struct name
  | _ => .error .absent

/-- The declared name of a field of the structure stored at a place. -/
def fieldName (body : Body) (place : Place) (index : Int) : Except Fault String := do
  return (← requireAt (← body.structAt place).fields index).name

/-- A place written with the names of its local and its fields. -/
def describe (body : Body) (place : Place) : Except Fault String := do
  let root ← requireAt body.locals place.root
  Place.renderPath body.fieldName (.ofLocal place.root) false root.name place.path

end Body
end BorrowChecker
