import BorrowChecker.Program

namespace BorrowChecker

/-!
The demands a type makes by being well formed.

Whatever lies behind a borrow outlives it.  To collect these demands a type is
unfolded: behind a borrow stands its target, and a structure stands for the
types of its fields.  Recursive structures come back to instances that were
opened before, which are recognised by their printed form and not opened again.

An instance is made of a declared structure and of lifetimes that occur in the
type or in some declaration.  Their number bounds the number of instances that
can be opened, and that bound is what the recursion counts down.
-/

/-- An instance of a structure: its name and its lifetime arguments. -/
abbrev Instance := String × List Lifetime

/-- The printed form by which an opened instance is recognised. -/
def Instance.text (inst : Instance) : String := Ty.structText inst.1 inst.2

/-- The demands of the pending types up to the first one that ends in an
instance not opened so far, with that instance and the types after it. -/
def nextInstance (opened : List String) :
    List Ty → List Outlives × Option (Instance × List Ty)
  | [] => ([], none)
  | type :: rest =>
      match type.leaf? with
      | some inst =>
          if opened.contains (Instance.text inst) then
            let later := nextInstance opened rest
            (type.chainDemands ++ later.1, later.2)
          else
            (type.chainDemands, some (inst, rest))
      | none =>
          let later := nextInstance opened rest
          (type.chainDemands ++ later.1, later.2)

namespace Program

/-- The demands of the pending types and of all they unfold to, opening at most
`budget` further instances. -/
def unfoldDemands (program : Program) :
    (budget : Nat) → (opened : List String) → (pending : List Ty) →
      Except Fault (List Outlives)
  | budget, opened, pending =>
      match nextInstance opened pending with
      | (demands, none) => .ok demands
      | (demands, some (inst, rest)) => do
          let fields ← program.fieldTypes inst.1 inst.2
          match budget with
          | 0 => return demands
          | budget + 1 =>
              let later ← unfoldDemands program budget (Instance.text inst :: opened)
                (fields ++ rest)
              return demands ++ later

/-- The lifetimes an unfolding of the type can mention: those of the type and
those of the declared fields. -/
def lifetimePool (program : Program) (type : Ty) : List Lifetime :=
  type.lifetimes ++ program.structs.flatMap fun decl =>
    decl.fields.flatMap fun field => field.type.lifetimes

/-- How many instances can be formed from so many lifetimes. -/
def instanceBound (program : Program) (poolSize : Nat) : Nat :=
  program.structs.foldr (fun decl total => Nat.pow poolSize decl.parameters.length + total) 0

/-- The demands that have to hold for a type to be well formed. -/
def impliedOutlives (program : Program) (type : Ty) : Except Fault (List Outlives) :=
  program.unfoldDemands (program.instanceBound (program.lifetimePool type).length) [] [type]

end Program
end BorrowChecker
