import BorrowChecker.Proofs.InitializationRule
import BorrowChecker.Proofs.PathStates

namespace BorrowChecker

/-!
Operands that are read in turn.

An instruction reads its operands one after another, and each one that is not
copyable is moved out of before the next one is read.  The initialization rule
looks at all of them at once, before any is read.  On every path through a body
that passes the rule, an operand is therefore still fully initialized when its
turn comes if and only if no operand before it overlaps it and is moved.  Nothing
in the rule excludes such an operand: a value can be moved twice by one
instruction.
-/

/-- The uninitialized places when an instruction reads the operand at a position:
all operands before it have been read in turn. -/
def Body.whenReading (body : Body) (tracked : List Place) (set : IndexSet tracked.length)
    (instr : Instr) (position : Nat) : Except Fault (IndexSet tracked.length) := do
  let moves ← body.readEvents (instr.movable.take position)
  return (moves.map (Event.effect tracked)).foldl Effect.apply set

section Reading

variable {tracked : List Place} {set : IndexSet tracked.length}

/-- Moving places out of what was fully initialized leaves it so if and only if none
of them overlaps it. -/
theorem fullyInitialized_foldl_moves_iff {places : List Place} {place : Place}
    (initially : fullyInitialized tracked set place = true) (isTracked : place ∈ tracked)
    (allTracked : ∀ moved ∈ places, moved ∈ tracked) :
    fullyInitialized tracked
        (((places.map Event.deinit).map (Event.effect tracked)).foldl Effect.apply set) place =
        true ↔
      ∀ moved ∈ places, moved.overlaps place = false := by
  rw [fullyInitialized_iff] at initially ⊢
  constructor
  · intro remains moved isMoved
    rw [Bool.eq_false_iff, Place.overlaps, Ne, Bool.or_eq_true]
    intro overlap
    have missing : ∀ part ∈ tracked, part.isWithin moved = true → part.isWithin place = true →
        False := by
      intro part listed inMoved inPlace
      have present := remains part listed inPlace
      rw [contains_foldl_deinit listed, Bool.or_eq_false_iff, List.any_eq_false] at present
      exact present.2 moved isMoved inMoved
    rcases overlap with inner | outer
    · exact missing moved (allTracked moved isMoved) moved.isWithin_refl inner
    · exact missing place isTracked outer place.isWithin_refl
  · intro apart part listed inside
    rw [contains_foldl_deinit listed, initially part listed inside, Bool.false_or,
      List.any_eq_false]
    intro moved isMoved inMoved
    have overlap := Place.overlaps_of_common_part inMoved inside
    exact Bool.false_ne_true ((apart moved isMoved).symm.trans overlap)

end Reading

theorem Instr.take_movable {instr : Instr} {position : Nat} {operand : Place}
    (isOperand : instr.operands[position]? = some operand) :
    instr.movable.take position = instr.operands.take position := by
  have single : ∀ place : Place, [place][position]? = some operand → position = 0 := by
    intro place found
    have below := (List.getElem?_eq_some_iff.mp found).1
    simpa using below
  cases instr with
  | assign target source next =>
      cases source with
      | borrow mutability place =>
          rw [single place isOperand, List.take_zero, List.take_zero]
      | use | const | unit | unary | binary | make | missing => rfl
  | branch condition yes no => rw [single _ isOperand, List.take_zero, List.take_zero]
  | call => rfl
  | deinit | goto | ret => rfl

namespace Body

variable {body : Body} {tracked : List Place}

/-- The state in which an operand is read exists wherever the instruction has events. -/
theorem whenReading_eq_ok {label : Nat} {events : List Event}
    (asked : body.eventsAt label = .ok events) {instr : Instr}
    (here : body.instr? label = some instr) (set : IndexSet tracked.length) (position : Nat) :
    body.whenReading tracked set instr position =
      .ok (((((instr.movable.take position).filter body.moves).map Event.deinit).map
        (Event.effect tracked)).foldl Effect.apply set) := by
  have known := events_of_eventsAt asked here
  rw [events_eq] at known
  rcases bind_eq_ok.mp known with ⟨_, reads, _⟩
  rcases bind_eq_ok.mp reads with ⟨_, mapped, _⟩
  have perPlace : ∀ place ∈ instr.movable.take position,
      ∃ moves, body.moveEvents place = .ok moves := by
    intro place listed
    rcases exists_of_mapM mapped (List.mem_of_mem_take listed) with ⟨moves, _, found⟩
    exact ⟨moves, found⟩
  rcases mapM_ok_of_forall perPlace with ⟨perOperand, mappedFront⟩
  have front : body.readEvents (instr.movable.take position) = .ok perOperand.flatten :=
    bind_eq_ok.mpr ⟨perOperand, mappedFront, rfl⟩
  apply bind_eq_ok.mpr
  refine ⟨_, front, ?_⟩
  rw [readEvents_eq_ok front]
  rfl

/-- On every path through a body that passes the initialization rule, an operand is
fully initialized at the moment it is read if and only if no operand that the same
instruction has moved before overlaps it. -/
theorem operand_fullyInitialized_iff {analysis : Analysis} (analyzed : body.analyze = .ok analysis)
    (silent : analysis.firstViolation .initialization = .ok none) {labels : List Nat} {label : Nat}
    (walk : Walk body.Edge body.entry.toNat labels label) {instr : Instr}
    (here : body.instr? label = some instr) :
    ∃ set, body.missingAfter analysis.uninitialized.tracked labels = .ok set ∧
      ∀ position operand, instr.operands[position]? = some operand →
        ∃ now, body.whenReading analysis.uninitialized.tracked set instr position = .ok now ∧
          (fullyInitialized analysis.uninitialized.tracked now operand = true ↔
            ∀ earlier ∈ instr.operands.take position, body.moves earlier = true →
              earlier.overlaps operand = false) := by
  have accepted := acceptedBy_of_firstViolation analyzed silent
  have admitted := accepted.admitted ⟨labels, walk⟩ here
  have computed := accepted.uninitialized
  generalize analysis.uninitialized = uninitialized at admitted computed
  rcases exists_missingAfter accepted.flow computed walk with
    ⟨set, final, followed, there, included⟩
  refine ⟨set, followed, ?_⟩
  intro position operand isOperand
  rcases uninitialized_eq_ok computed with ⟨tracked, effects, found, determined, rfl⟩
  have listed : ∀ place ∈ instr.operands, place ∈ tracked := by
    intro place inInstr
    have inCode : body.InCode place := ⟨label, instr, here, List.mem_append_left _ inInstr⟩
    apply (mem_tracked_of_inCode found inCode ?_).1
    exact (Place.mem_lineage_iff place place).mpr place.isWithin_refl
  have isListed := listed operand (List.mem_of_getElem? isOperand)
  have initially : fullyInitialized tracked set operand = true := by
    apply fullyInitialized_of_within (nodup_trackedPlaces found) there included
    exact admitted.reads operand (List.mem_append_left _ (List.mem_of_getElem? isOperand))
  rcases exists_eventsAt accepted.flow determined ⟨labels, walk⟩ with ⟨events, asked, _⟩
  refine ⟨_, whenReading_eq_ok asked here set position, ?_⟩
  rw [Instr.take_movable isOperand, fullyInitialized_foldl_moves_iff initially isListed]
  · simp only [List.mem_filter, and_imp]
  · intro moved isMoved
    exact listed moved (List.mem_of_mem_take (List.mem_filter.mp isMoved).1)

/-- A body that builds a structure from two boxes, one of which was handed over
before. -/
def distinctArguments : Body :=
  { name := "distinct"
    program := some boxProgram
    locals := [
      { name := "out", kind := .result, type := .unit },
      { name := "b", kind := .parameter, type := .struct "Box" [] },
      { name := "d", kind := .parameter, type := .struct "Box" [] },
      { name := "c", type := .struct "Box" [] },
      { name := "t", type := .struct "Two" [] }]
    code := [
      { instr := some (.assign (.ofLocal 3) (.use (.ofLocal 2)) 1) },
      { instr := some (.assign (.ofLocal 4) (.make "Two" [1, 3]) 2) },
      { instr := some (.assign (.ofLocal 0) .unit 3) },
      { instr := some .ret }] }

/-- The second box is still there when it is read, after the first was moved. -/
theorem distinctArguments_initialized_when_read :
    ∃ analysis set now, distinctArguments.analyze = .ok analysis ∧
      analysis.firstViolation .initialization = .ok none ∧
      distinctArguments.missingAfter analysis.uninitialized.tracked [0] = .ok set ∧
      distinctArguments.whenReading analysis.uninitialized.tracked set
        (.assign (.ofLocal 4) (.make "Two" [1, 3]) 2) 1 = .ok now ∧
      distinctArguments.moves (.ofLocal 1) = true ∧
      fullyInitialized analysis.uninitialized.tracked now (.ofLocal 3) = true := by
  have evaluated : distinctArguments.acceptedWith (fun _ => true) = true := by decide +kernel
  rcases exists_report_of_acceptedWith evaluated with ⟨report, reported, clean, _⟩
  rcases silent_of_report reported clean with ⟨analyzed, silent⟩
  have walk : Walk distinctArguments.Edge distinctArguments.entry.toNat [0] 1 :=
    .next .here ⟨_, rfl, by decide⟩
  rcases operand_fullyInitialized_iff analyzed (silent _) walk rfl with ⟨set, followed, reading⟩
  rcases reading 1 (.ofLocal 3) rfl with ⟨now, asked, initialized⟩
  refine ⟨_, set, now, analyzed, silent _, followed, asked, by decide +kernel, ?_⟩
  apply initialized.mpr
  decide

/-- A body that builds a structure from one box, used for both fields. -/
def repeatedArgument : Body :=
  { name := "twice"
    program := some boxProgram
    locals := [
      { name := "out", kind := .result, type := .unit },
      { name := "b", kind := .parameter, type := .struct "Box" [] },
      { name := "t", type := .struct "Two" [] }]
    code := [
      { instr := some (.assign (.ofLocal 2) (.make "Two" [1, 1]) 1) },
      { instr := some (.assign (.ofLocal 0) .unit 2) },
      { instr := some .ret }] }

/-- The body is accepted although the box is gone when it is read again. -/
theorem repeatedArgument_missing_when_read :
    ∃ report set now, repeatedArgument.report [] = .ok report ∧ report.violation? = none ∧
      repeatedArgument.missingAfter report.analysis.uninitialized.tracked [] = .ok set ∧
      repeatedArgument.instr? 0 = some (.assign (.ofLocal 2) (.make "Two" [1, 1]) 1) ∧
      repeatedArgument.whenReading report.analysis.uninitialized.tracked set
        (.assign (.ofLocal 2) (.make "Two" [1, 1]) 1) 1 = .ok now ∧
      fullyInitialized report.analysis.uninitialized.tracked now (.ofLocal 1) = false := by
  have evaluated : repeatedArgument.acceptedWith (fun report =>
      let tracked := report.analysis.uninitialized.tracked
      match repeatedArgument.whenReading tracked (repeatedArgument.entryState tracked)
        (.assign (.ofLocal 2) (.make "Two" [1, 1]) 1) 1 with
      | .ok now => !fullyInitialized tracked now (.ofLocal 1)
      | .error _ => false) = true := by
    decide +kernel
  rcases exists_report_of_acceptedWith evaluated with ⟨report, reported, clean, gone⟩
  dsimp only at gone
  split at gone
  · rename_i now asked
    exact ⟨report, _, now, reported, clean, rfl, rfl, asked, by simpa using gone⟩
  · simp at gone

end Body
end BorrowChecker
