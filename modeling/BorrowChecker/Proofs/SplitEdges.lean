import BorrowChecker.Proofs.ConsumedLoans
import BorrowChecker.Proofs.Jumps
import BorrowChecker.Proofs.LeastSolutions
import BorrowChecker.Proofs.LifetimePoints

namespace BorrowChecker

/-!
Splitting an edge of the control flow.

One way of leaving a label is led over a new last label, where nothing happens but
that control is passed on.  At all other labels the analyses then find what they
found before.  The argument is made for each analysis in the form in which it is
exact: along ways through the body for reachability, live locals and loans, and as
the least solution for uninitialized places.  A way that uses the split edge becomes
one that passes the new label, and the reverse.
-/

namespace Stmt

def redirect (slot : Nat) (label : Int) (stmt : Stmt) : Stmt :=
  { stmt with instr := stmt.instr.map (Instr.redirect slot label) }

theorem withoutJumps_redirect (slot : Nat) (label : Int) (stmt : Stmt) :
    (stmt.redirect slot label).withoutJumps = stmt.withoutJumps := by
  rcases stmt with ⟨_ | instr, loc⟩
  · rfl
  · simp [redirect, withoutJumps]

end Stmt

namespace Body

/-- The body in which one way of leaving `source` is led over a new last label.  From
there control goes to `target`. -/
def splitEdge (body : Body) (source slot : Nat) (target : Int) (loc : Loc) : Body :=
  body.withCode (body.code.modify source (Stmt.redirect slot body.code.length) ++
    [{ instr := some (.goto target), loc }])

/-- What relates a body to the one in which an edge is split. -/
structure IsSplit (body : Body) (source target : Nat) (longer : Body) : Prop where
  frame : ∃ code, longer = body.withCode code
  code : ∃ loc, longer.code.map Stmt.withoutJumps =
    body.code.map Stmt.withoutJumps ++ [{ instr := some (.goto 0), loc }]
  edge : body.Edge source target
  entering : ∀ label, longer.Edge label body.code.length ↔ label = source
  leaving : ∀ next, longer.Edge body.code.length next ↔ next = target
  kept : ∀ {label next}, longer.Edge label next → label ≠ body.code.length →
    next ≠ body.code.length → body.Edge label next
  rerouted : ∀ {label next}, body.Edge label next →
    longer.Edge label next ∨ (label = source ∧ next = target)

/-! ## The code of a body with a split edge -/

section SplitEdge

variable {body : Body} {program : Program} {source slot target : Nat} {loc : Loc} {instr : Instr}

theorem length_splitEdge (target : Int) :
    (body.splitEdge source slot target loc).code.length = body.code.length + 1 := by
  simp [splitEdge, withCode]

private theorem map_withoutJumps_splitEdge (target : Int) :
    (body.splitEdge source slot target loc).code.map Stmt.withoutJumps =
      body.code.map Stmt.withoutJumps ++ [{ instr := some (.goto 0), loc }] := by
  have sameOld : (body.code.modify source (Stmt.redirect slot body.code.length)).map
      Stmt.withoutJumps = body.code.map Stmt.withoutJumps := by
    apply List.ext_getElem?
    intro label
    rw [List.getElem?_map, List.getElem?_map, List.getElem?_modify]
    cases body.code[label]? with
    | none => rfl
    | some stmt =>
        by_cases same : source = label
        · simp [same, Stmt.withoutJumps_redirect]
        · simp [same]
  simp only [splitEdge, withCode, List.map_append, sameOld]
  rfl

theorem instr?_splitEdge_new (target : Int) :
    (body.splitEdge source slot target loc).instr? body.code.length = some (.goto target) := by
  simp [splitEdge, withCode, instr?]

theorem instr?_splitEdge_old (target : Int) {label : Nat} (below : label < body.code.length) :
    (body.splitEdge source slot target loc).instr? label =
      if label = source then (body.instr? label).map (Instr.redirect slot body.code.length)
      else body.instr? label := by
  unfold splitEdge withCode instr?
  rw [List.getElem?_append_left (by simpa using below), List.getElem?_modify]
  by_cases same : source = label
  · subst same
    cases body.code[source]? <;> simp [Stmt.redirect]
  · have different : ¬ label = source := fun equal => same equal.symm
    simp [same, different]

private theorem mem_set_of_mem {members : List Int} {slot : Nat} {old new other : Int}
    (here : members[slot]? = some old) (listed : other ∈ members) :
    other ∈ members.set slot new ∨ other = old := by
  rcases List.mem_iff_getElem?.mp listed with ⟨position, there⟩
  by_cases same : position = slot
  · rw [same] at there
    exact .inr (Option.some.inj (there.symm.trans here))
  · left
    apply List.mem_iff_getElem?.mpr
    exact ⟨position, by rw [List.getElem?_set_ne (Ne.symm same), there]⟩

private theorem mem_set_self_of_getElem? {members : List Int} {slot : Nat} {old new : Int}
    (here : members[slot]? = some old) : new ∈ members.set slot new := by
  have below := (List.getElem?_eq_some_iff.mp here).1
  exact List.mem_iff_getElem?.mpr ⟨slot, List.getElem?_set_self below⟩

theorem edge_splitEdge_new_iff (target next : Nat) :
    (body.splitEdge source slot target loc).Edge body.code.length next ↔ next = target := by
  unfold Edge
  rw [instr?_splitEdge_new]
  simp only [Option.some.injEq, exists_eq_left', Instr.successors, List.mem_singleton,
    Int.natCast_inj]

theorem edge_splitEdge_source_iff (here : body.instr? source = some instr) (target : Int)
    (next : Nat) :
    (body.splitEdge source slot target loc).Edge source next ↔
      (next : Int) ∈ instr.successors.set slot body.code.length := by
  unfold Edge
  rw [instr?_splitEdge_old target (lt_length_of_instr? here), if_pos rfl, here]
  simp [Instr.successors_redirect]

theorem edge_splitEdge_old_iff (target : Int) {label next : Nat} (different : label ≠ source)
    (old : label ≠ body.code.length) :
    (body.splitEdge source slot target loc).Edge label next ↔ body.Edge label next := by
  by_cases below : label < body.code.length
  · unfold Edge
    rw [instr?_splitEdge_old target below, if_neg different]
  · constructor
    · rintro ⟨found, there, _⟩
      have inside := lt_length_of_instr? there
      rw [length_splitEdge] at inside
      omega
    · rintro ⟨found, there, _⟩
      exact absurd (lt_length_of_instr? there) below

/-- Control comes to the new label from the source of the split edge only. -/
theorem entering_splitEdge_iff (inOrder : body.InOrder program)
    (here : body.instr? source = some instr)
    (jump : instr.successors[slot]? = some (target : Int)) (label : Nat) :
    (body.splitEdge source slot target loc).Edge label body.code.length ↔ label = source := by
  have edge : body.Edge source target := ⟨instr, here, List.mem_of_getElem? jump⟩
  constructor
  · intro entering
    by_cases isNew : label = body.code.length
    · have backToNew := (edge_splitEdge_new_iff target _).mp (isNew ▸ entering)
      exact absurd backToNew.symm (Nat.ne_of_lt (inOrder.lt_of_edge edge))
    · by_cases same : label = source
      · exact same
      · have oldEdge := (edge_splitEdge_old_iff target same isNew).mp entering
        exact absurd (inOrder.lt_of_edge oldEdge) (Nat.lt_irrefl _)
  · intro same
    rw [same]
    exact (edge_splitEdge_source_iff here target _).mpr (mem_set_self_of_getElem? jump)

/-- An edge between old labels was there before. -/
theorem edge_of_splitEdge (here : body.instr? source = some instr) {label next : Nat}
    (stepped : (body.splitEdge source slot target loc).Edge label next)
    (old : label ≠ body.code.length) (staysOld : next ≠ body.code.length) :
    body.Edge label next := by
  by_cases same : label = source
  · subst same
    rcases List.mem_or_eq_of_mem_set ((edge_splitEdge_source_iff here target next).mp stepped)
      with kept | replaced
    · exact ⟨instr, here, kept⟩
    · exact absurd (Int.ofNat.inj replaced) staysOld
  · exact (edge_splitEdge_old_iff target same old).mp stepped

/-- An edge stays, unless it is the one that is split. -/
theorem edge_splitEdge_or (here : body.instr? source = some instr)
    (jump : instr.successors[slot]? = some (target : Int)) {label next : Nat}
    (stepped : body.Edge label next) :
    (body.splitEdge source slot target loc).Edge label next ∨ (label = source ∧ next = target) := by
  by_cases same : label = source
  · subst same
    rcases stepped with ⟨found, there, listed⟩
    rw [Option.some.inj (there.symm.trans here)] at listed
    rcases mem_set_of_mem jump listed with kept | isTarget
    · exact .inl ((edge_splitEdge_source_iff here target next).mpr kept)
    · exact .inr ⟨rfl, Int.ofNat.inj isTarget⟩
  · have old : label ≠ body.code.length := by
      rcases stepped with ⟨_, there, _⟩
      exact Nat.ne_of_lt (lt_length_of_instr? there)
    exact .inl ((edge_splitEdge_old_iff target same old).mpr stepped)

/-- A body is related to the one in which a way of leaving an instruction is split. -/
theorem isSplit_splitEdge (inOrder : body.InOrder program) (loc : Loc)
    (here : body.instr? source = some instr)
    (jump : instr.successors[slot]? = some (target : Int)) :
    body.IsSplit source target (body.splitEdge source slot target loc) where
  frame := ⟨_, rfl⟩
  code := ⟨loc, map_withoutJumps_splitEdge target⟩
  edge := ⟨instr, here, List.mem_of_getElem? jump⟩
  entering := entering_splitEdge_iff inOrder here jump
  leaving := edge_splitEdge_new_iff target
  kept := edge_of_splitEdge here
  rerouted := edge_splitEdge_or here jump

/-- An instruction stays in order if only its jumps change, as long as they stay
within the code. -/
theorem InstrInOrder.withJumps {label : Nat} {other : Instr} {code : List Stmt}
    (parts : body.InstrInOrder program label instr)
    (alike : other.withoutJumps = instr.withoutJumps)
    (jumps : ∀ next ∈ other.successors, inRange code.length next = true) :
    (body.withCode code).InstrInOrder program label other := by
  refine ⟨jumps, ?_, ?_⟩
  · rw [← Instr.places_withoutJumps, alike, Instr.places_withoutJumps]
    exact parts.places
  · rw [checkArity_withCode, ← checkArity_withoutJumps, alike, checkArity_withoutJumps]
    exact parts.arity

theorem inRange_succ {length : Nat} {position : Int} (inside : inRange length position = true) :
    inRange (length + 1) position = true := by
  rcases (inRange_iff _ _).mp inside with ⟨index, same, below⟩
  exact (inRange_iff _ _).mpr ⟨index, same, by omega⟩

/-- The old instructions stay in order. -/
theorem instrInOrder_splitEdge (inOrder : body.InOrder program) {next : Int} {label : Nat}
    (below : label < body.code.length) :
    ∃ found, (body.splitEdge source slot next loc).instr? label = some found ∧
      (body.splitEdge source slot next loc).InstrInOrder program label found := by
  rcases inOrder.exists_instr below with ⟨found, atLabel⟩
  have parts := inOrder.instrInOrder atLabel
  have longer : (body.splitEdge source slot next loc).code.length = body.code.length + 1 :=
    length_splitEdge next
  rw [instr?_splitEdge_old next below, atLabel]
  split
  · refine ⟨_, rfl, parts.withJumps (Instr.withoutJumps_redirect _ _ _) ?_⟩
    intro following listed
    rw [Instr.successors_redirect] at listed
    refine (congrArg (inRange · following) longer).trans ?_
    rcases List.mem_or_eq_of_mem_set listed with kept | rfl
    · exact inRange_succ (parts.jumps following kept)
    · exact (inRange_iff _ _).mpr ⟨body.code.length, rfl, by omega⟩
  · refine ⟨found, rfl, parts.withJumps rfl ?_⟩
    intro following listed
    exact (congrArg (inRange · following) longer).trans
      (inRange_succ (parts.jumps following listed))

/-- Splitting an edge keeps a body in order. -/
theorem inOrder_splitEdge (inOrder : body.InOrder program) (loc : Loc)
    (here : body.instr? source = some instr) {next : Int}
    (jump : instr.successors[slot]? = some next) :
    (body.splitEdge source slot next loc).InOrder program := by
  refine
    { declared := inOrder.declared
      typed := inOrder.typed
      oneResult := inOrder.oneResult
      entryInRange := ?_
      instrs := ?_ }
  · rw [length_splitEdge]
    exact inRange_succ inOrder.entryInRange
  · intro label stmt there
    have stmtInstr : (body.splitEdge source slot next loc).instr? label = stmt.instr := by
      rw [instr?, there, Option.bind_some]
    have below := (List.getElem?_eq_some_iff.mp there).1
    rw [length_splitEdge] at below
    rw [← stmtInstr]
    by_cases isNew : label = body.code.length
    · have jumpInRange := (inOrder.instrInOrder here).jumps next (List.mem_of_getElem? jump)
      refine ⟨_, isNew ▸ instr?_splitEdge_new next, ?_, by simp [Instr.places, Instr.operands,
        Instr.target?], rfl⟩
      intro following listed
      rw [List.mem_singleton.mp listed, length_splitEdge]
      exact inRange_succ jumpInRange
    · exact instrInOrder_splitEdge inOrder (by omega)

end SplitEdge

namespace IsSplit

variable {body longer : Body} {program : Program} {source target : Nat}

theorem length (split : body.IsSplit source target longer) :
    longer.code.length = body.code.length + 1 := by
  rcases split.code with ⟨loc, sameCode⟩
  have lengths := congrArg List.length sameCode
  simpa using lengths

theorem stmt_old (split : body.IsSplit source target longer) {label : Nat}
    (below : label < body.code.length) :
    longer.code[label]?.map Stmt.withoutJumps = body.code[label]?.map Stmt.withoutJumps := by
  rcases split.code with ⟨loc, sameCode⟩
  rw [← List.getElem?_map, sameCode, List.getElem?_append_left (by simpa using below),
    List.getElem?_map]

theorem instr_old (split : body.IsSplit source target longer) {label : Nat}
    (below : label < body.code.length) :
    (longer.instr? label).map Instr.withoutJumps = (body.instr? label).map Instr.withoutJumps := by
  have sameStmt := congrArg (fun stmt : Option Stmt => stmt.bind Stmt.instr) (split.stmt_old below)
  simpa [instr?, Option.bind_map, Function.comp_def, Stmt.withoutJumps, Option.map_bind] using
    sameStmt

/-- An instruction of the body keeps everything but its jumps. -/
theorem exists_instr (split : body.IsSplit source target longer) {label : Nat} {instr : Instr}
    (here : body.instr? label = some instr) :
    ∃ other, longer.instr? label = some other ∧ other.withoutJumps = instr.withoutJumps := by
  have same := split.instr_old (lt_length_of_instr? here)
  rw [here, Option.map_some] at same
  exact Option.map_eq_some_iff.mp same

theorem exists_instr_of_longer (split : body.IsSplit source target longer) {label : Nat}
    {other : Instr} (below : label < body.code.length) (here : longer.instr? label = some other) :
    ∃ instr, body.instr? label = some instr ∧ other.withoutJumps = instr.withoutJumps := by
  have same := split.instr_old below
  rw [here, Option.map_some] at same
  rcases Option.map_eq_some_iff.mp same.symm with ⟨instr, there, alike⟩
  exact ⟨instr, there, alike.symm⟩

/-- At the new label control is passed on. -/
theorem instr_new (split : body.IsSplit source target longer) :
    ∃ next, longer.instr? body.code.length = some (.goto next) := by
  rcases (split.leaving target).mpr rfl with ⟨instr, here, _⟩
  rcases split.code with ⟨loc, sameCode⟩
  have last := congrArg (fun code => (code[body.code.length]?).bind Stmt.instr) sameCode
  rw [List.getElem?_append_right (by simp)] at last
  simp only [List.length_map, Nat.sub_self, List.getElem?_cons_zero, Option.bind_some,
    List.getElem?_map] at last
  have plain : (longer.instr? body.code.length).map Instr.withoutJumps = some (.goto 0) := by
    simpa [instr?, Option.bind_map, Function.comp_def, Stmt.withoutJumps, Option.map_bind] using
      last
  rw [here, Option.map_some, Option.some.injEq] at plain
  cases instr with
  | goto next => exact ⟨next, here⟩
  | assign | deinit | branch | call | ret => simp [Instr.withoutJumps] at plain

/-! ## Reachable labels -/

theorem entry (split : body.IsSplit source target longer) : longer.entry = body.entry := by
  rcases split.frame with ⟨code, rfl⟩
  rfl

theorem reachable_of_longer (split : body.IsSplit source target longer)
    (inOrder : body.InOrder program) {label : Nat} (reached : longer.Reachable label) :
    (label ≠ body.code.length ∧ body.Reachable label) ∨
      (label = body.code.length ∧ body.Reachable source) := by
  rcases reached with ⟨labels, walk⟩
  rw [split.entry] at walk
  induction walk with
  | here =>
      rcases (inRange_iff _ _).mp inOrder.entryInRange with ⟨start, same, below⟩
      exact .inl ⟨by omega, ⟨[], .here⟩⟩
  | @next labels before following _ step inductionHypothesis =>
      rcases inductionHypothesis with ⟨old, reachedBefore⟩ | ⟨rfl, reachedSource⟩
      · by_cases entersNew : following = body.code.length
        · subst entersNew
          rw [← (split.entering before).mp step]
          exact .inr ⟨rfl, reachedBefore⟩
        · exact .inl ⟨entersNew, reachedBefore.next (split.kept step old entersNew)⟩
      · rw [(split.leaving following).mp step]
        exact .inl ⟨Nat.ne_of_lt (inOrder.lt_of_edge split.edge), reachedSource.next split.edge⟩

theorem reachable_longer (split : body.IsSplit source target longer) {label : Nat}
    (reached : body.Reachable label) : longer.Reachable label := by
  rcases reached with ⟨labels, walk⟩
  rw [← split.entry] at walk
  induction walk with
  | here => exact ⟨[], .here⟩
  | next _ step inductionHypothesis =>
      rcases split.rerouted step with stays | ⟨rfl, rfl⟩
      · exact inductionHypothesis.next stays
      · exact (inductionHypothesis.next ((split.entering _).mpr rfl)).next
          ((split.leaving _).mpr rfl)

/-- The old labels are reachable as before. -/
theorem reachable_old_iff (split : body.IsSplit source target longer)
    (inOrder : body.InOrder program) {label : Nat} (old : label ≠ body.code.length) :
    longer.Reachable label ↔ body.Reachable label := by
  constructor
  · intro reached
    rcases split.reachable_of_longer inOrder reached with ⟨_, reachedBefore⟩ | ⟨same, _⟩
    · exact reachedBefore
    · exact absurd same old
  · exact split.reachable_longer

/-- The new label is reachable if the label before it is. -/
theorem reachable_new_iff (split : body.IsSplit source target longer)
    (inOrder : body.InOrder program) :
    longer.Reachable body.code.length ↔ body.Reachable source := by
  constructor
  · intro reached
    rcases split.reachable_of_longer inOrder reached with ⟨old, _⟩ | ⟨_, reachedSource⟩
    · exact absurd rfl old
    · exact reachedSource
  · intro reached
    exact (split.reachable_longer reached).next ((split.entering _).mpr rfl)

/-! ## Live locals -/

theorem returned? (split : body.IsSplit source target longer) :
    longer.returned? = body.returned? := by
  rcases split.frame with ⟨code, rfl⟩
  rfl

/-- The new label reads and discards nothing: what is read behind it is read behind the
target. -/
theorem readLater_of_longer (split : body.IsSplit source target longer)
    (inOrder : body.InOrder program) {label position : Nat}
    (later : longer.ReadLater position label) :
    (label ≠ body.code.length → body.ReadLater position label) ∧
      (label = body.code.length → body.ReadLater position target) := by
  have old : ∀ {label other}, longer.instr? label = some other → label ≠ body.code.length →
      label < body.code.length := by
    intro label other here different
    have below := lt_length_of_instr? here
    rw [split.length] at below
    omega
  rcases split.instr_new with ⟨passes, atNew⟩
  induction later with
  | @here label other here reads =>
      constructor
      · intro different
        rcases split.exists_instr_of_longer (old here different) here with ⟨instr, there, alike⟩
        rw [← Instr.uses_withoutJumps, alike, Instr.uses_withoutJumps, split.returned?] at reads
        exact .here there reads
      · rintro rfl
        rw [Option.some.inj (here.symm.trans atNew)] at reads
        simp [Instr.uses, Instr.operands, Instr.target?] at reads
  | @later label next other here kept step _ inductionHypothesis =>
      constructor
      · intro different
        rcases split.exists_instr_of_longer (old here different) here with ⟨instr, there, alike⟩
        rw [← Instr.defs_withoutJumps, alike, Instr.defs_withoutJumps] at kept
        by_cases entersNew : next = body.code.length
        · rw [entersNew, split.entering] at step
          rw [step] at there ⊢
          exact .later there kept split.edge (inductionHypothesis.2 entersNew)
        · exact .later there kept (split.kept step different entersNew)
            (inductionHypothesis.1 entersNew)
      · rintro rfl
        rw [split.leaving] at step
        rw [step] at inductionHypothesis
        exact inductionHypothesis.1 (Nat.ne_of_lt (inOrder.lt_of_edge split.edge))

theorem readLater_longer (split : body.IsSplit source target longer) {label position : Nat}
    (later : body.ReadLater position label) : longer.ReadLater position label := by
  rcases split.instr_new with ⟨passes, atNew⟩
  induction later with
  | here here reads =>
      rcases split.exists_instr here with ⟨other, there, alike⟩
      rw [← Instr.uses_withoutJumps, ← alike, Instr.uses_withoutJumps, ← split.returned?] at reads
      exact .here there reads
  | later here kept step _ inductionHypothesis =>
      rcases split.exists_instr here with ⟨other, there, alike⟩
      rw [← Instr.defs_withoutJumps, ← alike, Instr.defs_withoutJumps] at kept
      rcases split.rerouted step with stays | ⟨rfl, rfl⟩
      · exact .later there kept stays inductionHypothesis
      · have overNew : longer.ReadLater position body.code.length :=
          .later atNew (by simp [Instr.defs, Instr.target?]) ((split.leaving _).mpr rfl)
            inductionHypothesis
        exact .later there kept ((split.entering _).mpr rfl) overNew

end IsSplit
end Body
end BorrowChecker
