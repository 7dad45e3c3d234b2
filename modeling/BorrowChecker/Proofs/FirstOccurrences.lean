import Mathlib.Data.List.Induction

namespace BorrowChecker

/-!
Members in the order of their first occurrence.

Several parts of the library list what they come across without repetition: the
lifetimes of a type, the lifetimes of an outlives graph, the tracked places.  What is
common to them is said here once.  Lists are followed from their end, since it is the
last member that is dropped if it has occurred before.
-/

variable {α β : Type}

/-- Without repetitions, looking for a member finds its position. -/
theorem findIdx?_eq_some_iff_of_nodup {members : List α} (distinct : members.Nodup)
    {isMember : α → Bool} {member : α} (decides : ∀ other, isMember other = true ↔ other = member)
    (position : Nat) :
    members.findIdx? isMember = some position ↔ members[position]? = some member := by
  rw [List.findIdx?_eq_some_iff_getElem, List.getElem?_eq_some_iff]
  simp only [decides]
  constructor
  · rintro ⟨below, here, _⟩
    exact ⟨below, here⟩
  · rintro ⟨below, here⟩
    refine ⟨below, here, fun earlier before same => ?_⟩
    exact List.pairwise_iff_getElem.mp distinct earlier position _ below before
      (same.trans here.symm)

variable [BEq α] [LawfulBEq α] [BEq β] [LawfulBEq β]

/-- A further member is listed only if it is new. -/
theorem eraseDups_concat (members : List α) (last : α) :
    (members ++ [last]).eraseDups =
      if members.contains last then members.eraseDups else members.eraseDups ++ [last] := by
  rw [List.eraseDups_append]
  cases known : members.contains last <;>
    simp_all [List.removeAll, List.eraseDups_cons]

/-- What is listed earlier occurs earlier. -/
theorem eraseDups_pairwise_idxOf (members : List α) :
    members.eraseDups.Pairwise fun earlier later =>
      members.idxOf earlier < members.idxOf later := by
  induction members using List.reverseRecOn with
  | nil => simp
  | append_singleton members last inductionHypothesis =>
      have kept : members.eraseDups.Pairwise fun earlier later =>
          (members ++ [last]).idxOf earlier < (members ++ [last]).idxOf later := by
        refine inductionHypothesis.imp_of_mem ?_
        intro earlier later first second order
        rw [List.idxOf_append, if_pos (List.mem_eraseDups.mp first), List.idxOf_append,
          if_pos (List.mem_eraseDups.mp second)]
        exact order
      rw [eraseDups_concat]
      split
      · exact kept
      · rename_i fresh
        rw [List.contains_iff_mem] at fresh
        refine List.pairwise_append.mpr ⟨kept, List.pairwise_singleton _ _, ?_⟩
        intro earlier listed later isLast
        have occurs := List.mem_eraseDups.mp listed
        rw [List.mem_singleton.mp isLast, List.idxOf_append, if_pos occurs, List.idxOf_append,
          if_neg fresh]
        have inside := List.idxOf_lt_length_of_mem occurs
        omega

theorem nodup_eraseDups (members : List α) : members.eraseDups.Nodup := by
  refine (eraseDups_pairwise_idxOf members).imp ?_
  intro earlier later order same
  rw [same] at order
  exact Nat.lt_irrefl _ order

/-- Repetitions may be dropped before a change that creates further ones. -/
theorem eraseDups_map_eraseDups (change : α → β) (members : List α) :
    (members.eraseDups.map change).eraseDups = (members.map change).eraseDups := by
  induction members using List.reverseRecOn with
  | nil => simp
  | append_singleton members last inductionHypothesis =>
      have sameMembers : (members.eraseDups.map change).contains (change last) =
          (members.map change).contains (change last) := by
        rw [Bool.eq_iff_iff]
        simp [List.mem_eraseDups]
      rw [List.map_append, List.map_singleton, eraseDups_concat, eraseDups_concat]
      split
      · rename_i known
        have imageKnown : (members.map change).contains (change last) = true := by
          rw [List.contains_iff_mem] at known ⊢
          exact List.mem_map_of_mem known
        rw [imageKnown, if_pos rfl]
        exact inductionHypothesis
      · rw [List.map_append, List.map_singleton, eraseDups_concat, sameMembers,
          inductionHypothesis]

end BorrowChecker
