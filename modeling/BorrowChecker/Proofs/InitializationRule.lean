import BorrowChecker.Proofs.Acceptance
import BorrowChecker.Proofs.InitializationPaths

namespace BorrowChecker

/-!
What the initialization rule demands of an instruction.

The rule looks at the places that may be uninitialized before an instruction.  A
place that is read has no such part.  Around a place that is written, the
structures that hold it in their own storage are not uninitialized themselves, and
the pointer it lies behind has no uninitialized part.  Every place around the
target is one of those structures or contains that pointer, so nothing around the
target is left out as long as uninitialized places have uninitialized parts.

All of this is about the moment before the instruction.  What the instruction
moves out of its operands is not taken into account.
-/

namespace Place

private theorem beforeLastDeref?_append_deref (path : List Step) :
    beforeLastDeref? (path ++ [.deref]) = some path := by
  induction path with
  | nil => rfl
  | cons step rest inductionHypothesis => simp [beforeLastDeref?, inductionHypothesis]

private theorem beforeLastDeref?_append_field (path : List Step) (index : Int) :
    beforeLastDeref? (path ++ [.field index]) = beforeLastDeref? path := by
  induction path with
  | nil => rfl
  | cons step rest inductionHypothesis => simp [beforeLastDeref?, inductionHypothesis]

private theorem derefBase?_deref (place : Place) : place.deref.derefBase? = some place := by
  simp [derefBase?, deref, extend, beforeLastDeref?_append_deref]

private theorem derefBase?_field (place : Place) (index : Int) :
    (place.field index).derefBase? = place.derefBase? := by
  simp [derefBase?, field, extend, beforeLastDeref?_append_field]

end Place

namespace Body

/-! ## Places around a written place -/

theorem writtenOwners_field (place : Place) (index : Int) :
    writtenOwners (place.field index).lineage = place :: writtenOwners place.lineage := by
  have last : (place.field index).path.getLast? = some (.field index) := by
    simp [Place.field, Place.extend]
  rw [Place.field, Place.lineage_extend, ← Place.field]
  induction place using Place.extend_induction with
  | atLocal root =>
      rw [Place.lineage_ofLocal, writtenOwners, last]
  | further place step _ =>
      rw [Place.lineage_extend, writtenOwners, last]

/-- Whatever contains a written place holds it in its own storage or contains the
pointer it lies behind. -/
theorem mem_writtenOwners_or_pointer {target outer : Place}
    (inside : target.isWithin outer = true) (different : outer ≠ target) :
    outer ∈ writtenOwners target.lineage ∨
      ∃ pointer, target.derefBase? = some pointer ∧ target.isWithin pointer = true ∧
        pointer.isWithin outer = true := by
  induction target using Place.extend_induction with
  | atLocal root => exact absurd ((Place.isWithin_ofLocal_iff root outer).mp inside) different
  | further place step inductionHypothesis =>
      rcases (Place.isWithin_extend_iff place outer step).mp inside with same | further
      · exact absurd same different
      · cases step with
        | deref => exact .inr ⟨place, place.derefBase?_deref, place.extend_isWithin _, further⟩
        | field index =>
            rw [← Place.field, writtenOwners_field, place.derefBase?_field]
            by_cases parent : outer = place
            · exact .inl (parent ▸ List.mem_cons_self)
            · apply (inductionHypothesis further parent).imp
              · exact List.mem_cons_of_mem place
              · rintro ⟨pointer, isPointer, behind, within⟩
                exact ⟨pointer, isPointer,
                  Place.isWithin_trans (place.field_isWithin index) behind, within⟩

end Body

/-! ## The demands -/

namespace Scan

theorem objectIf_eq_ok {condition : Bool} {loc : Loc} {complaint : Complaint} :
    objectIf condition loc complaint = .ok () ↔ condition = false := by
  cases condition <;> simp [objectIf]

end Scan

namespace Body

variable {body : Body}

/-- What holds of the uninitialized places at a label whose instruction the
initialization rule does not object to. -/
structure Admitted (body : Body) (analysis : Uninitialized) (label : Nat) (instr : Instr) :
    Prop where
  reads : ∀ place ∈ body.reads instr, analysis.notFullyInit label place = false
  owners : ∀ target, instr.target? = some target → ∀ owner ∈ writtenOwners target.lineage,
    analysis.isUninit label owner = false
  pointer : ∀ target, instr.target? = some target → ∀ pointer,
    target.derefBase? = some pointer → analysis.notFullyInit label pointer = false

private theorem admitted_of_checkInitializedAt {analysis : Uninitialized} {label : Nat} {loc : Loc}
    {instr : Instr} (passed : body.checkInitializedAt analysis label loc instr = .ok ()) :
    body.Admitted analysis label instr := by
  rcases bind_eq_ok.mp passed with ⟨_, targets, reads⟩
  have perTarget : ∀ target, instr.target? = some target →
      checkTarget analysis label loc target = .ok () := by
    intro target writes
    rw [writes] at targets
    exact forM_eq_ok.mp targets target List.mem_cons_self
  constructor
  · intro place isRead
    exact Scan.objectIf_eq_ok.mp (forM_eq_ok.mp reads place isRead)
  · intro target writes owner isOwner
    rcases bind_eq_ok.mp (perTarget target writes) with ⟨_, owners, _⟩
    exact Scan.objectIf_eq_ok.mp (forM_eq_ok.mp owners owner isOwner)
  · intro target writes pointer isPointer
    rcases bind_eq_ok.mp (perTarget target writes) with ⟨_, _, pointers⟩
    rw [isPointer] at pointers
    exact Scan.objectIf_eq_ok.mp (forM_eq_ok.mp pointers pointer List.mem_cons_self)

/-- An analyzed body to which one family of rules does not object. -/
structure AcceptedBy (body : Body) (family : Family) (analysis : Analysis) : Prop extends
    body.Analyzed analysis where
  passed : analysis.scan family = .ok ()

theorem acceptedBy_of_firstViolation {family : Family} {analysis : Analysis}
    (analyzed : body.analyze = .ok analysis)
    (silent : analysis.firstViolation family = .ok none) : body.AcceptedBy family analysis :=
  { analyzed_of_analyze analyzed with passed := Analysis.scan_of_firstViolation silent }

theorem AcceptedBy.admitted {analysis : Analysis}
    (accepted : body.AcceptedBy .initialization analysis) {label : Nat}
    (reached : body.Reachable label) {instr : Instr} (here : body.instr? label = some instr) :
    body.Admitted analysis.uninitialized label instr := by
  have passed := accepted.passed
  simp only [Analysis.scan, accepted.sameBody] at passed
  have listed := (Flow.mem_reachable_iff accepted.flow label).mpr reached
  rcases scan_eq_ok passed listed here with ⟨loc, atLabel⟩
  exact admitted_of_checkInitializedAt atLabel

end Body
end BorrowChecker
