import BorrowChecker.Place
import Mathlib

namespace BorrowChecker

/-!
The compact form of a place determines the place.

A key is a number followed by the keys of the steps.  Numbers are written with digits
and a sign, and every step begins with a character that is neither, so the end of each
number can be seen.
-/

/-! ## Written numbers -/

/-- Whether a character can stand in a written number. -/
def isNumeral (character : Char) : Bool := character.isDigit || character == '-'

theorem isDigit_of_mem_repr {number : Nat} {character : Char}
    (listed : character ∈ number.repr.toList) : character.isDigit = true := by
  rw [Nat.toList_repr] at listed
  exact Nat.isDigit_of_mem_toDigits (by decide) (by decide) listed

theorem isNumeral_of_mem_toString {number : Int} {character : Char}
    (listed : character ∈ (toString number).toList) : isNumeral character = true := by
  rw [Int.toString_eq_repr, Int.repr_eq_if] at listed
  split at listed
  · simp [isNumeral, isDigit_of_mem_repr listed]
  · rw [String.toList_append, List.mem_append] at listed
    rcases listed with sign | digit
    · have isSign : character = '-' := by simpa using sign
      simp [isNumeral, isSign]
    · simp [isNumeral, isDigit_of_mem_repr digit]

theorem toList_toString_ne_nil (number : Int) : (toString number).toList ≠ [] := by
  rw [Int.toString_eq_repr, Int.repr_eq_if]
  split
  · rw [Nat.toList_repr]
    exact Nat.toDigits_ne_nil
  · simp

/-- Where a number ends and something else begins can be seen. -/
theorem append_inj_of_numerals {number number' rest rest' : List Char}
    (numerals : ∀ character ∈ number, isNumeral character = true)
    (numerals' : ∀ character ∈ number', isNumeral character = true)
    (ends : ∀ character ∈ rest.head?, isNumeral character = false)
    (ends' : ∀ character ∈ rest'.head?, isNumeral character = false)
    (same : number ++ rest = number' ++ rest') : number = number' ∧ rest = rest' := by
  induction number generalizing number' with
  | nil =>
      cases number' with
      | nil => exact ⟨rfl, same⟩
      | cons first others =>
          have impossible := ends first (by simp [show rest = first :: others ++ rest' from same])
          exact absurd (numerals' first List.mem_cons_self) (by simp [impossible])
  | cons first others inductionHypothesis =>
      cases number' with
      | nil =>
          have impossible := ends' first
            (by simp [show rest' = first :: others ++ rest from same.symm])
          exact absurd (numerals first List.mem_cons_self) (by simp [impossible])
      | cons first' others' =>
          rcases List.cons.inj same with ⟨rfl, sameRest⟩
          rcases inductionHypothesis (List.forall_mem_cons.mp numerals).2
            (List.forall_mem_cons.mp numerals').2 sameRest with ⟨rfl, sameEnd⟩
          exact ⟨rfl, sameEnd⟩

namespace Place

/-! ## Keys -/

/-- The characters of the keys of some steps. -/
def pathKey (path : List Step) : List Char := path.flatMap fun step => (stepKey step).toList

theorem toList_key (place : Place) :
    place.key.toList = (toString place.root).toList ++ pathKey place.path := by
  simp [key, pathKey, String.toList_join, List.flatMap_map]

theorem pathKey_deref (path : List Step) : pathKey (.deref :: path) = '*' :: pathKey path := by
  simp [pathKey, stepKey]

theorem pathKey_field (index : Int) (path : List Step) :
    pathKey (.field index :: path) = '.' :: ((toString index).toList ++ pathKey path) := by
  simp [pathKey, stepKey]

/-- A step does not begin like a number. -/
theorem head?_pathKey (path : List Step) :
    ∀ character ∈ (pathKey path).head?, isNumeral character = false := by
  intro character first
  cases path with
  | nil => simp [pathKey] at first
  | cons step rest =>
      cases step with
      | deref =>
          rw [pathKey_deref, List.head?_cons, Option.mem_some_iff] at first
          rw [← first]
          decide
      | field index =>
          rw [pathKey_field, List.head?_cons, Option.mem_some_iff] at first
          rw [← first]
          decide

private theorem eq_of_pathKey_eq {left right : List Step} (same : pathKey left = pathKey right) :
    left = right := by
  induction left generalizing right with
  | nil =>
      cases right with
      | nil => rfl
      | cons step rest => cases step <;> simp [pathKey, stepKey] at same
  | cons step rest inductionHypothesis =>
      cases right with
      | nil => cases step <;> simp [pathKey, stepKey] at same
      | cons step' rest' =>
          cases step with
          | deref =>
              cases step' with
              | deref =>
                  rw [pathKey_deref, pathKey_deref] at same
                  rw [inductionHypothesis (List.cons.inj same).2]
              | field index' => simp [pathKey_deref, pathKey_field] at same
          | field index =>
              cases step' with
              | deref => simp [pathKey_deref, pathKey_field] at same
              | field index' =>
                  rw [pathKey_field, pathKey_field] at same
                  rcases append_inj_of_numerals (fun _ => isNumeral_of_mem_toString)
                    (fun _ => isNumeral_of_mem_toString) (head?_pathKey rest)
                    (head?_pathKey rest') (List.cons.inj same).2 with ⟨sameIndex, sameRest⟩
                  rw [inductionHypothesis sameRest,
                    Int.repr_injective (String.toList_injective sameIndex)]

/-- Places with the same key are equal. -/
theorem eq_of_key_eq {left right : Place} (same : left.key = right.key) : left = right := by
  have characters := congrArg String.toList same
  rw [toList_key, toList_key] at characters
  rcases append_inj_of_numerals (fun _ => isNumeral_of_mem_toString)
    (fun _ => isNumeral_of_mem_toString) (head?_pathKey left.path) (head?_pathKey right.path)
    characters with ⟨sameRoot, samePath⟩
  rcases left with ⟨leftRoot, leftPath⟩
  rcases right with ⟨rightRoot, rightPath⟩
  rw [mk.injEq]
  exact ⟨Int.repr_injective (String.toList_injective sameRoot), eq_of_pathKey_eq samePath⟩

end Place
end BorrowChecker
