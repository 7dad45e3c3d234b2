namespace BorrowChecker

/-!
Sets of numbers below a bound.

Every dataflow analysis numbers the things it tracks and works with sets of
such numbers.  A set is a word with one bit per number.  Joining sets is the
bitwise disjunction; a set that grows is a larger number, and this is what
bounds the iteration of an analysis.
-/

/-- A set of numbers below `bound`. -/
structure IndexSet (bound : Nat) where
  bits : BitVec bound
  deriving DecidableEq, Repr

namespace IndexSet

variable {bound : Nat}

def empty : IndexSet bound := ⟨0⟩

instance : Inhabited (IndexSet bound) := ⟨empty⟩

def contains (set : IndexSet bound) (index : Nat) : Bool := set.bits.getLsbD index

/-- Add a number.  Numbers that are not below the bound are ignored. -/
def insert (set : IndexSet bound) (index : Nat) : IndexSet bound :=
  ⟨set.bits ||| BitVec.twoPow bound index⟩

def erase (set : IndexSet bound) (index : Nat) : IndexSet bound :=
  ⟨set.bits &&& ~~~BitVec.twoPow bound index⟩

def union (left right : IndexSet bound) : IndexSet bound := ⟨left.bits ||| right.bits⟩

def inter (left right : IndexSet bound) : IndexSet bound := ⟨left.bits &&& right.bits⟩

def diff (left right : IndexSet bound) : IndexSet bound := ⟨left.bits &&& ~~~right.bits⟩

def ofList (bound : Nat) (indices : List Nat) : IndexSet bound := indices.foldl insert empty

/-- The members in increasing order. -/
def toList (set : IndexSet bound) : List Nat := (List.range bound).filter set.contains

/-- How far a set is from being the largest one. -/
def deficit (set : IndexSet bound) : Nat := (BitVec.allOnes bound).toNat - set.bits.toNat

/-- Two sets with the same members are equal. -/
theorem ext_contains {left right : IndexSet bound}
    (agree : ∀ index, left.contains index = right.contains index) : left = right := by
  cases left with
  | mk leftBits =>
  cases right with
  | mk rightBits =>
  have equal : leftBits = rightBits := BitVec.eq_of_getLsbD_eq fun index _ => agree index
  rw [equal]

@[simp] theorem contains_empty (index : Nat) :
    (empty : IndexSet bound).contains index = false := by
  simp [contains, empty]

@[simp] theorem contains_insert (set : IndexSet bound) (added index : Nat) :
    (set.insert added).contains index =
      (set.contains index || (decide (added < bound) && decide (added = index))) := by
  simp [contains, insert, BitVec.getLsbD_twoPow]

@[simp] theorem contains_erase (set : IndexSet bound) (removed index : Nat) :
    (set.erase removed).contains index = (set.contains index && decide (removed ≠ index)) := by
  by_cases inside : index < bound
  · by_cases same : removed = index
    · subst same
      simp [contains, erase, inside]
    · simp [contains, erase, inside, same, Ne.symm same]
  · simp [contains, erase, BitVec.getLsbD_of_ge _ _ (Nat.le_of_not_lt inside)]

@[simp] theorem contains_union (left right : IndexSet bound) (index : Nat) :
    (left.union right).contains index = (left.contains index || right.contains index) := by
  simp [contains, union]

@[simp] theorem contains_inter (left right : IndexSet bound) (index : Nat) :
    (left.inter right).contains index = (left.contains index && right.contains index) := by
  simp [contains, inter]

@[simp] theorem contains_diff (left right : IndexSet bound) (index : Nat) :
    (left.diff right).contains index = (left.contains index && !right.contains index) := by
  by_cases inside : index < bound
  · simp [contains, diff, inside]
  · simp [contains, diff, BitVec.getLsbD_of_ge _ _ (Nat.le_of_not_lt inside)]

/-- Adding listed numbers one by one. -/
theorem contains_foldl_insert (set : IndexSet bound) (indices : List Nat) (index : Nat) :
    (indices.foldl insert set).contains index =
      (set.contains index || (decide (index < bound) && indices.contains index)) := by
  induction indices generalizing set with
  | nil => simp
  | cons first rest inductionHypothesis =>
      rw [List.foldl_cons, inductionHypothesis, Bool.eq_iff_iff]
      simp only [contains_insert, Bool.or_eq_true, Bool.and_eq_true, decide_eq_true_eq,
        List.contains_iff_mem, List.mem_cons]
      grind

/-- A listed number is a member if it is below the bound. -/
@[simp] theorem contains_ofList (indices : List Nat) (index : Nat) :
    (ofList bound indices).contains index =
      (decide (index < bound) && indices.contains index) := by
  simp [ofList, contains_foldl_insert]

/-- Members are below the bound. -/
theorem lt_of_contains {set : IndexSet bound} {index : Nat}
    (member : set.contains index = true) : index < bound :=
  BitVec.lt_of_getLsbD member

/-- The list of members holds exactly the members. -/
@[simp] theorem mem_toList (set : IndexSet bound) (index : Nat) :
    index ∈ set.toList ↔ set.contains index = true := by
  simp only [toList, List.mem_filter, List.mem_range, and_iff_right_iff_imp]
  exact lt_of_contains

/-- No set is further from the largest one than the empty one. -/
theorem deficit_le (set : IndexSet bound) : set.deficit ≤ (empty : IndexSet bound).deficit := by
  have nothing : (empty : IndexSet bound).bits.toNat = 0 := by simp [empty]
  unfold deficit
  omega

/-- A join that adds something comes closer to the largest set. -/
theorem deficit_union_lt {left right : IndexSet bound} (grown : left.union right ≠ left) :
    (left.union right).deficit < left.deficit := by
  have larger : left.bits.toNat ≤ (left.union right).bits.toNat := by
    simp only [union, BitVec.toNat_or]
    exact Nat.left_le_or
  have different : left.bits.toNat ≠ (left.union right).bits.toNat := by
    intro same
    apply grown
    cases left with
    | mk leftBits =>
    exact congrArg IndexSet.mk (BitVec.eq_of_toNat_eq same).symm
  have below := (left.union right).bits.isLt
  simp only [deficit, BitVec.toNat_allOnes]
  omega

end IndexSet
end BorrowChecker
