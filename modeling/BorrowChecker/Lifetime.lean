namespace BorrowChecker

/-!
Lifetime variables.

A lifetime is identified by a written name together with an inference number.
Both take part in equality, although the printed form shows only one of them:
two different lifetimes may print alike.  Fresh inference lifetimes come from
an explicit supply, so that everything that instantiates a declaration is an
ordinary function of the supply it is given.
-/

/-- A lifetime variable.  A lifetime with `number = 0` is a named one; any
other number marks an inference variable. -/
structure Lifetime where
  name : String := ""
  number : Int := 0
  deriving DecidableEq, Repr, Inhabited

namespace Lifetime

def named (name : String) : Lifetime := { name }

def inferred (number : Int) : Lifetime := { number }

/-- The printed form: the number of an inference lifetime, otherwise the name. -/
def text (lifetime : Lifetime) : String :=
  if lifetime.number = 0 then "'" ++ lifetime.name else "'?" ++ toString lifetime.number

/-- The order in which lifetimes are listed for a reader: by number first, by
name among equal numbers. -/
def precedes (left right : Lifetime) : Bool :=
  if left.number = right.number then decide (left.name ≤ right.name)
  else decide (left.number < right.number)

end Lifetime

/-- A list printed between brackets, its members separated by one blank. -/
def bracketed (members : List String) : String :=
  "[" ++ " ".intercalate members ++ "]"

/-- The demand that one lifetime outlives another. -/
structure Outlives where
  long : Lifetime
  short : Lifetime
  deriving DecidableEq, Repr, Inhabited

/-- The demand as it is written in a signature. -/
def Outlives.text (demand : Outlives) : String :=
  demand.long.text ++ ": " ++ demand.short.text

/-- A finite renaming of lifetimes.  The first pair for a lifetime decides;
lifetimes without a pair are kept. -/
abbrev Renaming := List (Lifetime × Lifetime)

namespace Renaming

/-- The renaming given by pairs of which a later one overrides an earlier one
for the same lifetime. -/
def ofPairs (pairs : List (Lifetime × Lifetime)) : Renaming := pairs.reverse

/-- The renaming that binds each parameter to the argument in its position.
A parameter listed twice is bound by its last position. -/
def binding (parameters arguments : List Lifetime) : Renaming :=
  ofPairs (parameters.zip arguments)

/-- The lifetime that takes the place of the given one. -/
def apply (mapping : Renaming) (lifetime : Lifetime) : Lifetime :=
  (mapping.lookup lifetime).getD lifetime

end Renaming

def Outlives.rename (change : Lifetime → Lifetime) (demand : Outlives) : Outlives :=
  { long := change demand.long, short := change demand.short }

/-- A supply of inference lifetimes, known by the number it gave out last. -/
structure FreshSupply where
  last : Int := 0
  deriving DecidableEq, Repr, Inhabited

namespace FreshSupply

/-- How many numbers there are.  Numbers are signed words of 64 bits. -/
def wordCount : Nat := 18446744073709551616

/-- The number after `number`.  The largest is followed by the smallest. -/
def successor (number : Int) : Int := Int.bmod (number + 1) wordCount

def next (supply : FreshSupply) : Lifetime × FreshSupply :=
  let number := successor supply.last
  (Lifetime.inferred number, { last := number })

/-- Take several lifetimes, in the order in which the supply gives them out. -/
def take (supply : FreshSupply) : Nat → List Lifetime × FreshSupply
  | 0 => ([], supply)
  | count + 1 =>
      let first := supply.next
      let others := take first.2 count
      (first.1 :: others.1, others.2)

/-- A supply gives out as many lifetimes as it is asked for. -/
@[simp] theorem length_take (supply : FreshSupply) (count : Nat) :
    (supply.take count).1.length = count := by
  induction count generalizing supply with
  | zero => rfl
  | succ count inductionHypothesis => simp [take, inductionHypothesis]

end FreshSupply
end BorrowChecker
