namespace BorrowChecker

/-!
Finite sets of integers, kept as strictly increasing lists.

The order is part of the type, so that listing a set needs no sorting and two
sets with the same members are the same list.
-/

/-- A finite set of integers. -/
structure IntSet where
  toList : List Int
  increasing : toList.Pairwise (· < ·)
  deriving DecidableEq

namespace IntSet

/-- The members of either of two lists; common heads are kept once. -/
def mergeLists : List Int → List Int → List Int
  | [], right => right
  | left, [] => left
  | first :: left, second :: right =>
      if first < second then first :: mergeLists left (second :: right)
      else if second < first then second :: mergeLists (first :: left) right
      else first :: mergeLists left right
termination_by left right => left.length + right.length

/-- Merging neither adds nor loses members. -/
theorem mem_mergeLists (value : Int) (left right : List Int) :
    value ∈ mergeLists left right ↔ value ∈ left ∨ value ∈ right := by
  fun_induction mergeLists left right with
  | case1 right => simp
  | case2 left => simp
  | case3 first left second right lower inductionHypothesis =>
      simp only [List.mem_cons, inductionHypothesis]
      grind
  | case4 first left second right _ _ inductionHypothesis =>
      simp only [List.mem_cons, inductionHypothesis]
      grind
  | case5 first left second right notLower notHigher inductionHypothesis =>
      have same : second = first := by omega
      simp only [List.mem_cons, inductionHypothesis, same]
      grind

/-- Merging keeps lists increasing. -/
theorem increasing_mergeLists (left right : List Int) (leftIncreasing : left.Pairwise (· < ·))
    (rightIncreasing : right.Pairwise (· < ·)) : (mergeLists left right).Pairwise (· < ·) := by
  fun_induction mergeLists left right with
  | case1 right => exact rightIncreasing
  | case2 left => exact leftIncreasing
  | case3 first left second right lower inductionHypothesis =>
      rw [List.pairwise_cons] at leftIncreasing ⊢
      refine ⟨?_, inductionHypothesis leftIncreasing.2 rightIncreasing⟩
      intro value member
      rw [List.pairwise_cons] at rightIncreasing
      rcases (mem_mergeLists value _ _).mp member with inLeft | inRight
      · exact leftIncreasing.1 value inLeft
      · rcases List.mem_cons.mp inRight with same | inRest
        · omega
        · have := rightIncreasing.1 value inRest
          omega
  | case4 first left second right _ lower inductionHypothesis =>
      rw [List.pairwise_cons] at rightIncreasing ⊢
      refine ⟨?_, inductionHypothesis leftIncreasing rightIncreasing.2⟩
      intro value member
      rw [List.pairwise_cons] at leftIncreasing
      rcases (mem_mergeLists value _ _).mp member with inLeft | inRight
      · rcases List.mem_cons.mp inLeft with same | inRest
        · omega
        · have := leftIncreasing.1 value inRest
          omega
      · exact rightIncreasing.1 value inRight
  | case5 first left second right notLower notHigher inductionHypothesis =>
      rw [List.pairwise_cons] at leftIncreasing rightIncreasing ⊢
      refine ⟨?_, inductionHypothesis leftIncreasing.2 rightIncreasing.2⟩
      intro value member
      rcases (mem_mergeLists value _ _).mp member with inLeft | inRight
      · exact leftIncreasing.1 value inLeft
      · have := rightIncreasing.1 value inRight
        omega

def empty : IntSet := ⟨[], List.Pairwise.nil⟩

instance : Inhabited IntSet := ⟨empty⟩

def singleton (value : Int) : IntSet := ⟨[value], List.pairwise_singleton _ _⟩

def union (left right : IntSet) : IntSet :=
  ⟨mergeLists left.toList right.toList,
    increasing_mergeLists _ _ left.increasing right.increasing⟩

def insert (set : IntSet) (value : Int) : IntSet := set.union (singleton value)

def contains (set : IntSet) (value : Int) : Bool := set.toList.contains value

@[simp] theorem contains_empty (value : Int) : empty.contains value = false := rfl

@[simp] theorem contains_union (left right : IntSet) (value : Int) :
    (left.union right).contains value = (left.contains value || right.contains value) := by
  rw [Bool.eq_iff_iff]
  simp [contains, union, mem_mergeLists]

@[simp] theorem contains_insert (set : IntSet) (added value : Int) :
    (set.insert added).contains value = (set.contains value || decide (value = added)) := by
  rw [Bool.eq_iff_iff]
  simp [contains, insert, union, singleton, mem_mergeLists]

theorem mem_toList_iff (set : IntSet) (value : Int) :
    value ∈ set.toList ↔ set.contains value = true := by
  simp [contains]

/-- Two sets with the same members are equal. -/
theorem ext_contains {left right : IntSet}
    (agree : ∀ value, left.contains value = true ↔ right.contains value = true) :
    left = right := by
  have distinct : ∀ set : IntSet, set.toList.Nodup := fun set =>
    set.increasing.imp fun {_ _} less => Int.ne_of_lt less
  have sameMembers : left.toList.Perm right.toList := by
    rw [List.perm_ext_iff_of_nodup (distinct left) (distinct right)]
    intro value
    rw [mem_toList_iff, mem_toList_iff]
    exact agree value
  have sameList : left.toList = right.toList :=
    sameMembers.eq_of_pairwise (fun _ _ _ _ less greater => absurd less (Int.lt_asymm greater))
      left.increasing right.increasing
  cases left
  cases right
  simpa using sameList

theorem contains_foldl_union {α : Type} (members : List α) (points : α → IntSet) (start : IntSet)
    (value : Int) :
    (members.foldl (fun set member => set.union (points member)) start).contains value = true ↔
      start.contains value = true ∨ ∃ member ∈ members, (points member).contains value = true := by
  induction members generalizing start with
  | nil => simp
  | cons first rest inductionHypothesis =>
      rw [List.foldl_cons, inductionHypothesis]
      simp [or_assoc]

end IntSet
end BorrowChecker
