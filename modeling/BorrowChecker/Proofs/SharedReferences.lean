import BorrowChecker.Proofs.AliasingRule
import BorrowChecker.Proofs.CollectedDemands
import BorrowChecker.Proofs.InitializationRule

namespace BorrowChecker

/-!
Writes through references.

The mutability rule looks at types: a place is writable if every pointer that it
is reached through is declared to be a mutable reference.  What a local really
holds is decided by the borrow that was stored there, and nothing compares the
two.  In an accepted body a reference made by a shared borrow is therefore written
through only where the local that keeps it was declared with a mutable type, and
there it can be.
-/

theorem Place.isWithin_deref_iff (place pointer : Place) :
    place.isWithin pointer.deref = true ↔
      place.root = pointer.root ∧ ∃ rest, place.path = pointer.path ++ .deref :: rest := by
  simp only [isWithin, deref, extend, Bool.and_eq_true, beq_iff_eq, List.isPrefixOf_iff_prefix]
  constructor
  · rintro ⟨sameRoot, rest, split⟩
    exact ⟨sameRoot, rest, by simp [← split]⟩
  · rintro ⟨sameRoot, rest, split⟩
    exact ⟨sameRoot, rest, by simp [split]⟩

namespace Body

variable {body : Body}

/-! ## Writable places -/

/-- A step that does not follow a shared borrow leads on along the path. -/
theorem pathIsWritable_step {place : Place} {type : Ty} {step : Step} (rest : List Step)
    (notShared : step = .deref → ∀ lifetime pointee, type ≠ .borrow lifetime .shared pointee) :
    body.pathIsWritable place type (step :: rest) =
      body.stepType place type step >>= fun next => body.pathIsWritable place next rest := by
  rw [pathIsWritable]
  intro lifetime pointee isShared isDeref
  exact notShared isDeref lifetime pointee isShared

private theorem pathIsWritable_cons {place : Place} {type : Ty} {step : Step} {rest : List Step} :
    body.pathIsWritable place type (step :: rest) = .ok true ↔
      (step = .deref → ∀ lifetime pointee, type ≠ .borrow lifetime .shared pointee) ∧
        ∃ after, body.stepType place type step = .ok after ∧
          body.pathIsWritable place after rest = .ok true := by
  by_cases follows : step = .deref ∧ ∃ lifetime pointee, type = .borrow lifetime .shared pointee
  · rcases follows with ⟨rfl, lifetime, pointee, rfl⟩
    simp [pathIsWritable]
  · have notShared : step = .deref →
        ∀ lifetime pointee, type ≠ .borrow lifetime .shared pointee :=
      fun isDeref lifetime pointee isShared => follows ⟨isDeref, lifetime, pointee, isShared⟩
    rw [pathIsWritable_step rest notShared, bind_eq_ok]
    constructor
    · intro stepped
      exact ⟨notShared, stepped⟩
    · exact And.right

/-- A path with a type can be followed as far as it stays writable. -/
theorem exists_pathIsWritable {place : Place} {path : List Step} {type last : Ty}
    (walked : path.foldlM (body.stepType place) type = .ok last) :
    ∃ writable, body.pathIsWritable place type path = .ok writable := by
  induction path generalizing type with
  | nil => exact ⟨true, by simp [pathIsWritable]⟩
  | cons step rest inductionHypothesis =>
      by_cases follows : step = .deref ∧ ∃ lifetime pointee, type = .borrow lifetime .shared pointee
      · rcases follows with ⟨rfl, lifetime, pointee, rfl⟩
        exact ⟨false, by simp [pathIsWritable]⟩
      · rw [List.foldlM_cons, bind_eq_ok] at walked
        rcases walked with ⟨next, stepped, walked⟩
        rcases inductionHypothesis walked with ⟨writable, answered⟩
        rw [pathIsWritable_step rest fun isDeref lifetime pointee isShared =>
          follows ⟨isDeref, lifetime, pointee, isShared⟩]
        exact ⟨writable, bind_eq_ok.mpr ⟨next, stepped, answered⟩⟩

theorem exists_isWritable {place : Place} (typed : ∃ type, body.typeOf place = .ok type) :
    ∃ writable, body.isWritable place = .ok writable := by
  rcases typed with ⟨type, typed⟩
  rcases bind_eq_ok.mp typed with ⟨rootType, rooted, walked⟩
  rcases exists_pathIsWritable walked with ⟨writable, answered⟩
  exact ⟨writable, bind_eq_ok.mpr ⟨rootType, rooted, answered⟩⟩

/-- Along a writable path every pointer is mutable. -/
theorem pathIsWritable_iff {place : Place} {type : Ty} {path : List Step} :
    body.pathIsWritable place type path = .ok true ↔
      (∃ last, path.foldlM (body.stepType place) type = .ok last) ∧
        ∀ front rest, path = front ++ .deref :: rest → ∃ lifetime pointee,
          front.foldlM (body.stepType place) type = .ok (.borrow lifetime .unique pointee) := by
  induction path generalizing type with
  | nil => simp [pathIsWritable, pure, Except.pure]
  | cons step remaining inductionHypothesis =>
      rw [pathIsWritable_cons]
      simp only [inductionHypothesis, List.foldlM_cons, bind_eq_ok]
      constructor
      · rintro ⟨notShared, after, stepped, ⟨last, walked⟩, pointers⟩
        refine ⟨⟨last, after, stepped, walked⟩, ?_⟩
        intro front rest split
        cases front with
        | nil =>
            rcases List.cons.inj split with ⟨rfl, rfl⟩
            cases type with
            | borrow lifetime mutability pointee =>
                cases mutability with
                | unique => exact ⟨lifetime, pointee, rfl⟩
                | shared => exact absurd rfl (notShared rfl lifetime pointee)
            | unit | int | bool | struct | missing => simp [stepType] at stepped
        | cons first front =>
            rcases List.cons.inj split with ⟨rfl, splitLater⟩
            rcases pointers front rest splitLater with ⟨lifetime, pointee, reached⟩
            exact ⟨lifetime, pointee, bind_eq_ok.mpr ⟨after, stepped, reached⟩⟩
      · rintro ⟨⟨last, after, stepped, walked⟩, pointers⟩
        refine ⟨?_, after, stepped, ⟨last, walked⟩, ?_⟩
        · rintro rfl lifetime pointee rfl
          rcases pointers [] remaining rfl with ⟨_, _, same⟩
          simp [pure, Except.pure] at same
        · intro front rest split
          rcases pointers (step :: front) rest (congrArg (step :: ·) split) with
            ⟨lifetime, pointee, reached⟩
          rw [List.foldlM_cons, bind_eq_ok] at reached
          rcases reached with ⟨other, alsoStepped, reached⟩
          rw [Except.ok.inj (stepped.symm.trans alsoStepped)]
          exact ⟨lifetime, pointee, reached⟩

/-- A place can be written if it has a type and every pointer that it is reached
through is a mutable reference. -/
theorem isWritable_iff {place : Place} :
    body.isWritable place = .ok true ↔ (∃ type, body.typeOf place = .ok type) ∧
      ∀ pointer, place.isWithin pointer.deref = true →
        ∃ lifetime pointee, body.typeOf pointer = .ok (.borrow lifetime .unique pointee) := by
  simp only [isWritable, typeOf, bind_eq_ok, pathIsWritable_iff, Place.isWithin_deref_iff]
  constructor
  · rintro ⟨rootType, rooted, ⟨last, walked⟩, pointers⟩
    refine ⟨⟨last, rootType, rooted, walked⟩, ?_⟩
    rintro pointer ⟨sameRoot, rest, split⟩
    rcases pointers pointer.path rest split with ⟨lifetime, pointee, reached⟩
    rw [← sameRoot]
    exact ⟨lifetime, pointee, rootType, rooted, foldlM_stepType_congr reached⟩
  · rintro ⟨⟨last, rootType, rooted, walked⟩, pointers⟩
    refine ⟨rootType, rooted, ⟨last, walked⟩, ?_⟩
    intro front rest split
    rcases pointers { place with path := front } ⟨rfl, rest, split⟩ with
      ⟨lifetime, pointee, other, alsoRooted, reached⟩
    rw [Except.ok.inj (rooted.symm.trans alsoRooted)]
    exact ⟨lifetime, pointee, foldlM_stepType_congr reached⟩

end Body

/-- An instruction writes a place or makes a mutable reference to it. -/
def Instr.Mutates (instr : Instr) (place : Place) : Prop :=
  instr.target? = some place ∨ ∃ target next, instr = .assign target (.borrow .unique place) next

namespace Body

variable {body : Body}

private theorem writable_of_checkWritableAt {label : Nat} {loc : Loc} {instr : Instr}
    (passed : body.checkWritableAt label loc instr = .ok ()) {place : Place}
    (mutates : instr.Mutates place) : body.isWritable place = .ok true := by
  rcases bind_eq_ok.mp passed with ⟨_, borrows, writes⟩
  have answered : ∀ {complaint : Complaint}, (do
      Scan.objectIf (!(← Scan.ask (body.isWritable place))) loc complaint) = .ok () →
      body.isWritable place = .ok true := by
    intro complaint silent
    rcases bind_eq_ok.mp silent with ⟨answer, asked, silent⟩
    have isTrue : answer = true := by simpa using Scan.objectIf_eq_ok.mp silent
    rw [Scan.ask_eq_ok.mp asked, isTrue]
  rcases mutates with isTarget | ⟨target, next, rfl⟩
  · rw [isTarget] at writes
    exact answered (forM_eq_ok.mp writes place List.mem_cons_self)
  · exact answered borrows

theorem Accepted.writable {analysis : Analysis} (accepted : body.Accepted analysis) {label : Nat}
    (reached : body.Reachable label) {instr : Instr} (here : body.instr? label = some instr)
    {place : Place} (mutates : instr.Mutates place) : body.isWritable place = .ok true := by
  have passed := accepted.passed .mutability
  simp only [Analysis.scan, accepted.sameBody] at passed
  rcases scan_eq_ok passed ((Flow.mem_reachable_iff accepted.flow label).mpr reached) here with
    ⟨loc, passedHere⟩
  exact writable_of_checkWritableAt passedHere mutates

/-! ## References that stay where they were stored -/

/-- Some way leads from `origin` to a label, and nothing in between defines the
local. -/
inductive Retained (body : Body) (origin holder : Nat) : Nat → Prop where
  | stored {label : Nat} (step : body.Edge origin label) : Retained body origin holder label
  | next {label following : Nat} {instr : Instr} (before : Retained body origin holder label)
      (here : body.instr? label = some instr) (untouched : (holder : Int) ∉ instr.defs)
      (step : body.Edge label following) : Retained body origin holder following

theorem Retained.reachable {origin holder label : Nat}
    (retained : body.Retained origin holder label)
    (reached : body.Reachable origin) : body.Reachable label := by
  induction retained with
  | stored step => exact reached.next step
  | next _ _ _ step inductionHypothesis => exact inductionHypothesis.next step

/-- A local that a borrow is stored in was declared as a reference. -/
theorem Analyzed.localType_of_borrow {analysis : Analysis} (analyzed : body.Analyzed analysis)
    {label holder : Nat} {mutability : Mutability} {place : Place} {next : Int}
    (borrows : body.instr? label =
      some (.assign (.ofLocal holder) (.borrow mutability place) next)) :
    ∃ lifetime declared pointee,
      body.localType holder = .ok (.borrow lifetime declared pointee) := by
  rcases analyzed.valid.inOrder with ⟨program, inOrder⟩
  rcases exists_instrDemands inOrder analyzed.graph borrows with ⟨_, _, demanded, _⟩
  rcases borrowDemands_eq_ok demanded with ⟨lifetime, declared, pointee, _, _, _, typed, _⟩
  rw [typeOf_ofLocal] at typed
  exact ⟨lifetime, declared, pointee, typed⟩

/-- Nothing at a label mutates what a shared borrow points to, unless the local that
keeps the reference was declared as a mutable one.  Then, and only then, can the
place that it points to be written. -/
theorem declared_unique_of_mutates {report : Report} (reported : body.report [] = .ok report)
    (clean : report.violation? = none) {origin holder : Nat} {source : Place} {next : Int}
    (borrows : body.instr? origin =
      some (.assign (.ofLocal holder) (.borrow .shared source) next))
    (reached : body.Reachable origin) {label : Nat}
    (retained : body.Retained origin holder label) {instr : Instr}
    (here : body.instr? label = some instr) :
    ∃ lifetime declared pointee,
      body.localType holder = .ok (.borrow lifetime declared pointee) ∧
      (body.isWritable (Place.ofLocal holder).deref = .ok true ↔ declared = .unique) ∧
      ∀ place, instr.Mutates place → place.isWithin (Place.ofLocal holder).deref = true →
        declared = .unique := by
  have accepted := accepted_of_report reported clean
  rcases accepted.localType_of_borrow borrows with ⟨lifetime, declared, pointee, typed⟩
  have pointer : body.typeOf (.ofLocal holder) = .ok (.borrow lifetime declared pointee) := by
    rw [typeOf_ofLocal, typed]
  have unique_of_writable : ∀ place, body.isWritable place = .ok true →
      place.isWithin (Place.ofLocal holder).deref = true → declared = .unique := by
    intro place writable through
    rcases (isWritable_iff.mp writable).2 _ through with ⟨_, _, asUnique⟩
    have same := Except.ok.inj (pointer.symm.trans asUnique)
    exact (Ty.borrow.inj same).2.1
  refine ⟨lifetime, declared, pointee, typed, ⟨?_, ?_⟩, ?_⟩
  · intro writable
    exact unique_of_writable _ writable (Place.isWithin_refl _)
  · rintro rfl
    simp [isWritable, Place.deref, Place.extend, Place.ofLocal, typed, pathIsWritable, stepType,
      bind, Except.bind]
  · intro place mutates through
    have arrived := retained.reachable reached
    exact unique_of_writable place (accepted.writable arrived here mutates) through

/-- A body that writes a local while a shared reference to another is kept. -/
def keptReference : Body :=
  { name := "kept"
    program := some {}
    locals := [
      { name := "out", kind := .result, type := .int },
      { name := "x", kind := .parameter, type := .int },
      { name := "y", type := .int },
      { name := "q", type := .borrow (.inferred 1) .shared .int }]
    code := [
      { instr := some (.assign (.ofLocal 3) (.borrow .shared (.ofLocal 1)) 1) },
      { instr := some (.goto 2) },
      { instr := some (.assign (.ofLocal 2) (.use (Place.ofLocal 3).deref) 3) },
      { instr := some (.assign (.ofLocal 0) (.use (.ofLocal 2)) 4) },
      { instr := some .ret }] }

/-- The write does not go through the reference, and none could. -/
theorem keptReference_not_mutated :
    ∃ report instr, keptReference.report [] = .ok report ∧ report.violation? = none ∧
      keptReference.Retained 0 3 2 ∧ keptReference.instr? 2 = some instr ∧
      instr.Mutates (.ofLocal 2) ∧
      keptReference.isWritable (Place.ofLocal 3).deref ≠ .ok true ∧
      ∀ place, instr.Mutates place → place.isWithin (Place.ofLocal 3).deref = false := by
  have evaluated : keptReference.acceptedWith (fun _ => true) = true := by decide +kernel
  rcases exists_report_of_acceptedWith evaluated with ⟨report, reported, clean, _⟩
  have stored : keptReference.Retained 0 3 1 := .stored ⟨_, rfl, by decide⟩
  have here : keptReference.instr? 1 = some (.goto 2) := rfl
  have retained : keptReference.Retained 0 3 2 :=
    stored.next here (by decide) ⟨_, here, by decide⟩
  rcases declared_unique_of_mutates reported clean rfl ⟨[], .here⟩ retained rfl with
    ⟨lifetime, declared, pointee, typed, writable, mutated⟩
  have isShared : declared ≠ .unique := by
    rcases Ty.borrow.inj (Except.ok.inj typed) with ⟨_, same, _⟩
    rw [← same]
    decide
  refine ⟨report, _, reported, clean, retained, rfl, .inl rfl, ?_, ?_⟩
  · intro canWrite
    exact isShared (writable.mp canWrite)
  · intro place mutates
    rw [Bool.eq_false_iff]
    intro through
    exact isShared (mutated place mutates through)

/-- A body that stores a shared borrow as a mutable reference and writes through
it. -/
def disguisedReference : Body :=
  { name := "shared"
    program := some {}
    locals := [
      { name := "out", kind := .result, type := .int },
      { name := "x", kind := .parameter, type := .int },
      { name := "q", type := .borrow (.inferred 1) .unique .int }]
    code := [
      { instr := some (.assign (.ofLocal 2) (.borrow .shared (.ofLocal 1)) 1) },
      { instr := some (.assign (Place.ofLocal 2).deref (.const 2) 2) },
      { instr := some (.assign (.ofLocal 0) (.use (.ofLocal 1)) 3) },
      { instr := some .ret }] }

/-- The body is accepted. -/
theorem disguisedReference_mutated :
    ∃ report instr, disguisedReference.report [] = .ok report ∧ report.violation? = none ∧
      disguisedReference.instr? 0 =
        some (.assign (.ofLocal 2) (.borrow .shared (.ofLocal 1)) 1) ∧
      disguisedReference.Retained 0 2 1 ∧ disguisedReference.instr? 1 = some instr ∧
      instr.Mutates (Place.ofLocal 2).deref := by
  have evaluated : disguisedReference.acceptedWith (fun _ => true) = true := by decide +kernel
  rcases exists_report_of_acceptedWith evaluated with ⟨report, reported, clean, _⟩
  exact ⟨report, _, reported, clean, rfl, .stored ⟨_, rfl, by decide⟩, rfl, .inl rfl⟩

end Body
end BorrowChecker
