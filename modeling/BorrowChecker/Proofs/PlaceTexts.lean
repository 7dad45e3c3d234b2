import BorrowChecker.Proofs.PlaceKeys
import BorrowChecker.Proofs.TrackedPlaces

namespace BorrowChecker

/-!
The printed form of a place determines the place.

Steps are printed in two directions: a dereference goes in front of what it follows, a
field selection behind it, and parentheses are written only around a dereference that a
field is selected from.  So the order of the steps is not the order of the characters.
It can be recovered from the outside.  A star in front belongs to the last step.  If
there is none, the last step selected the field whose number stands behind the last
dot.  Before that dot stands the place that the field is selected from: it ends with a
parenthesis if its own last step is a dereference, and with a number if not.
-/

namespace Place

/-- A property of whole locals that dereferences and field selections keep holds of all
places. -/
theorem built_induction {motive : Place → Prop} (atLocal : ∀ root, motive (.ofLocal root))
    (atDeref : ∀ place, motive place → motive place.deref)
    (atField : ∀ place index, motive place → motive (place.field index)) (place : Place) :
    motive place := by
  induction place using extend_induction with
  | atLocal root => exact atLocal root
  | further place step inductionHypothesis =>
      cases step with
      | deref => exact atDeref place inductionHypothesis
      | field index => exact atField place index inductionHypothesis

/-! ## The printed form, step by step -/

/-- Printing a path in two parts gives the same as printing it at once. -/
theorem renderPath_append {m : Type → Type} [Monad m] [LawfulMonad m]
    (fieldName : Place → Int → m String) (origin : Place) (afterDeref : Bool)
    (rendered : String) (front back : List Step) :
    renderPath fieldName origin afterDeref rendered (front ++ back) =
      (renderPath fieldName origin afterDeref rendered front >>= fun text =>
        renderPath fieldName (front.foldl extend origin)
          ((front.getLast?.map Step.isDeref).getD afterDeref) text back) := by
  induction front generalizing origin afterDeref rendered with
  | nil => simp [renderPath]
  | cons step rest inductionHypothesis =>
      have lastOfAll : (((step :: rest).getLast?.map Step.isDeref).getD afterDeref) =
          (rest.getLast?.map Step.isDeref).getD step.isDeref := by
        rw [List.getLast?_cons, Option.getD_map]
        rfl
      rw [lastOfAll, List.cons_append, List.foldl_cons]
      cases step with
      | deref => exact inductionHypothesis origin.deref true _
      | field index =>
          simp only [renderPath, bind_assoc]
          congr 1
          funext name
          exact inductionHypothesis (origin.field index) false _

/-- Whether the last step of a place follows a pointer. -/
def endsInDeref (place : Place) : Bool :=
  (place.path.getLast?.map Step.isDeref).getD false

/-- The printed form of a place as it stands before a field that is selected from it. -/
def enclosed (place : Place) : String :=
  if place.endsInDeref then "(" ++ place.text ++ ")" else place.text

@[simp] theorem endsInDeref_ofLocal (root : Int) : (ofLocal root).endsInDeref = false := rfl

@[simp] theorem endsInDeref_deref (place : Place) : place.deref.endsInDeref = true := by
  simp [endsInDeref, deref, extend, Step.isDeref]

@[simp] theorem endsInDeref_field (place : Place) (index : Int) :
    (place.field index).endsInDeref = false := by
  simp [endsInDeref, field, extend, Step.isDeref]

theorem text_ofLocal (root : Int) : (ofLocal root).text = "_" ++ toString root := rfl

theorem text_deref (place : Place) : place.deref.text = "*" ++ place.text := by
  unfold text deref extend
  rw [renderPath_append]
  rfl

theorem text_field (place : Place) (index : Int) :
    (place.field index).text = place.enclosed ++ "." ++ toString index := by
  unfold text field extend
  rw [renderPath_append]
  rfl

example : ((Place.ofLocal 1).field 0).deref.text = "*_1.0" ∧
    ((Place.ofLocal 1).deref.field 0).text = "(*_1).0" := by decide

/-! ## What the ends of a printed form tell -/

/-- A dereference, and nothing else, puts a star in front. -/
theorem head?_text_eq_star_iff (place : Place) :
    place.text.toList.head? = some '*' ↔ place.endsInDeref = true := by
  induction place using built_induction with
  | atLocal root => simp [text_ofLocal]
  | atDeref place _ => simp [text_deref]
  | atField place index inductionHypothesis =>
      rw [text_field, endsInDeref_field, enclosed]
      cases ends : place.endsInDeref with
      | true => simp
      | false =>
          rw [ends] at inductionHypothesis
          cases first : place.text.toList.head? <;> simp_all [List.head?_append]

theorem endsInDeref_eq_of_text_eq {left right : Place} (same : left.text = right.text) :
    left.endsInDeref = right.endsInDeref := by
  rw [Bool.eq_iff_iff, ← head?_text_eq_star_iff, ← head?_text_eq_star_iff, same]

/-- Whatever is printed ends with a number. -/
theorem exists_number_behind (place : Place) :
    ∃ (front : String) (number : Int), place.text = front ++ toString number := by
  induction place using built_induction with
  | atLocal root => exact ⟨"_", root, text_ofLocal root⟩
  | atDeref place inductionHypothesis =>
      rcases inductionHypothesis with ⟨front, number, printed⟩
      exact ⟨"*" ++ front, number, by rw [text_deref, printed, String.append_assoc]⟩
  | atField place index _ => exact ⟨place.enclosed ++ ".", index, text_field place index⟩

theorem getLast?_text_ne (place : Place) : place.text.toList.getLast? ≠ some ')' := by
  rcases place.exists_number_behind with ⟨front, number, printed⟩
  rw [printed, String.toList_append, List.getLast?_append]
  cases ends : (toString number).toList.getLast? with
  | none => exact absurd (List.getLast?_eq_none_iff.mp ends) (toList_toString_ne_nil number)
  | some last =>
      have numeral := isNumeral_of_mem_toString (List.mem_of_getLast? ends)
      intro isParenthesis
      rcases Option.some.inj isParenthesis with rfl
      exact absurd numeral (by decide)

/-- The parentheses around a place can be told from the place itself. -/
theorem text_eq_of_enclosed_eq {left right : Place} (same : left.enclosed = right.enclosed) :
    left.text = right.text := by
  have lastOfEnclosed : ∀ text : String, ("(" ++ text ++ ")").toList.getLast? = some ')' := by
    intro text
    rw [String.toList_append, List.getLast?_append]
    rfl
  unfold enclosed at same
  split at same <;> split at same
  · have stripped : '(' :: (left.text.toList ++ [')']) = '(' :: (right.text.toList ++ [')']) := by
      simpa using congrArg String.toList same
    exact String.toList_injective (List.append_cancel_right (List.cons.inj stripped).2)
  · exact absurd (same ▸ lastOfEnclosed left.text) right.getLast?_text_ne
  · exact absurd (same ▸ lastOfEnclosed right.text) left.getLast?_text_ne
  · exact same

/-- The number behind the last dot can be seen. -/
theorem append_dot_number_inj {left right : String} {leftNumber rightNumber : Int}
    (same : left ++ "." ++ toString leftNumber = right ++ "." ++ toString rightNumber) :
    left = right ∧ leftNumber = rightNumber := by
  have backwards : (toString leftNumber).toList.reverse ++ '.' :: left.toList.reverse =
      (toString rightNumber).toList.reverse ++ '.' :: right.toList.reverse := by
    simpa using congrArg (fun text => text.toList.reverse) same
  have numerals : ∀ number : Int, ∀ character ∈ (toString number).toList.reverse,
      isNumeral character = true :=
    fun _ _ listed => isNumeral_of_mem_toString (List.mem_reverse.mp listed)
  have dotEnds : ∀ rest : List Char, ∀ character ∈ ('.' :: rest).head?,
      isNumeral character = false := by
    intro rest character first
    rw [List.head?_cons, Option.mem_some_iff] at first
    rw [← first]
    decide
  rcases append_inj_of_numerals (numerals leftNumber) (numerals rightNumber) (dotEnds _)
    (dotEnds _) backwards with ⟨sameNumber, sameRest⟩
  exact ⟨String.toList_injective (List.reverse_injective (List.cons.inj sameRest).2),
    Int.repr_injective (String.toList_injective (List.reverse_injective sameNumber))⟩

/-- A local is printed without a dot. -/
theorem text_ofLocal_ne_field (root : Int) (place : Place) (index : Int) :
    (ofLocal root).text ≠ (place.field index).text := by
  intro same
  have listed : '.' ∈ (ofLocal root).text.toList := by
    rw [same, text_field]
    simp
  rw [text_ofLocal, String.toList_append, List.mem_append] at listed
  rcases listed with isMark | inNumber
  · exact absurd isMark (by decide)
  · exact absurd (isNumeral_of_mem_toString inNumber) (by decide)

/-! ## Printed forms and keys determine places -/

/-- Places with the same printed form are equal: in front a star tells whether the last
step is a dereference, and behind a dot whether it is a field. -/
theorem eq_of_text_eq {left right : Place} (same : left.text = right.text) : left = right := by
  induction left using built_induction generalizing right with
  | atLocal root =>
      have sameEnd := endsInDeref_eq_of_text_eq same
      cases right using built_induction with
      | atLocal root' =>
          rw [text_ofLocal, text_ofLocal] at same
          rw [Int.repr_injective ((String.append_right_inj _).mp same)]
      | atDeref right _ => simp at sameEnd
      | atField right index _ => exact absurd same (text_ofLocal_ne_field root right index)
  | atDeref left inductionHypothesis =>
      have sameEnd := endsInDeref_eq_of_text_eq same
      cases right using built_induction with
      | atLocal root => simp at sameEnd
      | atDeref right _ =>
          rw [text_deref, text_deref] at same
          rw [inductionHypothesis ((String.append_right_inj _).mp same)]
      | atField right index _ => simp at sameEnd
  | atField left index inductionHypothesis =>
      have sameEnd := endsInDeref_eq_of_text_eq same
      cases right using built_induction with
      | atLocal root => exact absurd same.symm (text_ofLocal_ne_field root left index)
      | atDeref right _ => simp at sameEnd
      | atField right index' _ =>
          rw [text_field, text_field] at same
          rcases append_dot_number_inj same with ⟨sameBase, rfl⟩
          rw [inductionHypothesis (text_eq_of_enclosed_eq sameBase)]

/-- Two places have the same key, or the same printed form, only if they are the same
place. -/
theorem key_and_text_determine_place (left right : Place) :
    (left.key = right.key ↔ left = right) ∧ (left.text = right.text ↔ left = right) :=
  ⟨⟨eq_of_key_eq, congrArg key⟩, ⟨eq_of_text_eq, congrArg text⟩⟩

end Place
end BorrowChecker
