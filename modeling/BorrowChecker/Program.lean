import BorrowChecker.Fault

namespace BorrowChecker

/-!
Declarations a body may refer to.

Structures and functions are declared with lifetime parameters.  This module
gives the two ways of instantiating them: at given lifetime arguments, and at
lifetimes taken fresh from a supply.  Nothing here follows a structure into its
fields; that is the business of type unfolding.
-/

/-- A declared field of a structure. -/
structure FieldDecl where
  name : String
  type : Ty
  deriving DecidableEq, Repr, Inhabited

/-- A structure declaration.  A copyable structure is never moved by a use. -/
structure StructDecl where
  name : String
  parameters : List Lifetime := []
  fields : List FieldDecl := []
  copyable : Bool := false
  deriving DecidableEq, Repr, Inhabited

/-- The type of each field at the given lifetime arguments. -/
def StructDecl.fieldTypes (decl : StructDecl) (arguments : List Lifetime) :
    Except Fault (List Ty) :=
  if decl.parameters.length = arguments.length then
    .ok (decl.fields.map fun field =>
      field.type.rename (Renaming.binding decl.parameters arguments).apply)
  else
    .error (.lifetimeArity decl.name decl.parameters arguments)

/-- The signature of a callable function. -/
structure Signature where
  name : String
  generics : List Lifetime := []
  outlives : List Outlives := []
  parameters : List Ty := []
  result : Ty := .missing
  deriving DecidableEq, Repr, Inhabited

def Signature.rename (change : Lifetime → Lifetime) (signature : Signature) : Signature :=
  { signature with
    outlives := signature.outlives.map (Outlives.rename change)
    parameters := signature.parameters.map (Ty.rename change)
    result := signature.result.rename change }

/-- Replace the generic lifetimes of a signature by fresh ones. -/
def Signature.instantiate (signature : Signature) (supply : FreshSupply) :
    Signature × FreshSupply :=
  let fresh := supply.take signature.generics.length
  (signature.rename (Renaming.binding signature.generics fresh.1).apply, fresh.2)

/-- The declarations of a program, the most recent one first. -/
structure Program where
  structs : List StructDecl := []
  functions : List Signature := []
  deriving DecidableEq, Repr, Inhabited

namespace Program

/-- The program that declares the given structures and functions in order.  A
later declaration hides an earlier one of the same name. -/
def ofDeclarations (structs : List StructDecl) (functions : List Signature) : Program :=
  { structs := structs.reverse, functions := functions.reverse }

def struct? (program : Program) (name : String) : Option StructDecl :=
  program.structs.find? (·.name == name)

def function? (program : Program) (name : String) : Option Signature :=
  program.functions.find? (·.name == name)

/-- The declaration of a structure that has to be declared. -/
def struct (program : Program) (name : String) : Except Fault StructDecl :=
  match program.struct? name with
  | some decl => .ok decl
  | none => .error (.unknownStruct name)

/-- The signature of a function that has to be declared. -/
def function (program : Program) (name : String) : Except Fault Signature :=
  match program.function? name with
  | some signature => .ok signature
  | none => .error (.unknownFunction name)

def fieldTypes (program : Program) (name : String) (arguments : List Lifetime) :
    Except Fault (List Ty) := do
  (← program.struct name).fieldTypes arguments

/-- Whether using a value of a type copies it instead of moving it. -/
def isCopyable (program : Program) : Ty → Except Fault Bool
  | .unit | .int | .bool => .ok true
  | .borrow _ mutability _ => .ok (mutability == .shared)
  | .struct name _ => return (← program.struct name).copyable
  | .missing => .error (.unexpectedType .missing)

/-- The lifetime arguments, the field types and the remaining supply of a
structure instantiated at fresh lifetimes. -/
def instantiateStruct (program : Program) (supply : FreshSupply) (name : String) :
    Except Fault (Ty × List Ty × FreshSupply) := do
  let decl ← program.struct name
  let fresh := supply.take decl.parameters.length
  let fields ← decl.fieldTypes fresh.1
  return (.struct name fresh.1, fields, fresh.2)

end Program
end BorrowChecker
