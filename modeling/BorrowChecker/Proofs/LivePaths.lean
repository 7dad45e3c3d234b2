import BorrowChecker.Proofs.LiveLocals

namespace BorrowChecker

/-!
Liveness as a statement about paths.

What it means for an instruction to read a local, or to discard the value it has,
is said here for each kind of instruction and without the lists that the analysis
works with.  A local is live at a label exactly if some path from there leads to
an instruction that reads it and discards it nowhere before.
-/

namespace Body

/-- The ways in which an instruction reads a local: as the root of an operand,
through a pointer that it writes through, or as the result that it returns. -/
inductive Reads (body : Body) (position : Nat) : Instr → Prop where
  | use {target place : Place} {next : Int} (rooted : place.root = position) :
      Reads body position (.assign target (.use place) next)
  | borrow {target place : Place} {mutability : Mutability} {next : Int}
      (rooted : place.root = position) :
      Reads body position (.assign target (.borrow mutability place) next)
  | operand {target place : Place} {operator : String} {next : Int}
      (rooted : place.root = position) :
      Reads body position (.assign target (.unary operator place) next)
  | left {target left right : Place} {operator : String} {next : Int}
      (rooted : left.root = position) :
      Reads body position (.assign target (.binary operator left right) next)
  | right {target left right : Place} {operator : String} {next : Int}
      (rooted : right.root = position) :
      Reads body position (.assign target (.binary operator left right) next)
  | member {target : Place} {struct : String} {arguments : List Int} {next : Int}
      (listed : (position : Int) ∈ arguments) :
      Reads body position (.assign target (.make struct arguments) next)
  | argument {target : Place} {function : String} {arguments : List Int} {next : Int}
      (listed : (position : Int) ∈ arguments) :
      Reads body position (.call function arguments target next)
  | condition {yes no : Int} : Reads body position (.branch position yes no)
  | assigned {target : Place} {source : Rvalue} {next : Int} (rooted : target.root = position)
      (follows : .deref ∈ target.path) : Reads body position (.assign target source next)
  | answered {target : Place} {function : String} {arguments : List Int} {next : Int}
      (rooted : target.root = position) (follows : .deref ∈ target.path) :
      Reads body position (.call function arguments target next)
  | result (returned : body.kindOf? position = some .result) : Reads body position .ret

/-- The ways in which an instruction discards the value of a local: it writes the
whole local, or ends its storage. -/
inductive Discards (position : Nat) : Instr → Prop where
  | assigned {source : Rvalue} {next : Int} :
      Discards position (.assign (.ofLocal position) source next)
  | answered {function : String} {arguments : List Int} {next : Int} :
      Discards position (.call function arguments (.ofLocal position) next)
  | ended {next : Int} : Discards position (.deinit position next)

end Body

/-! ## The lists of the analysis -/

theorem Place.isLocal_iff (place : Place) : place.isLocal = true ↔ place = ofLocal place.root := by
  rcases place with ⟨root, path⟩
  cases path <;> simp [isLocal, ofLocal]

theorem Place.hasDeref_iff (place : Place) : place.hasDeref = true ↔ .deref ∈ place.path := by
  unfold hasDeref
  rw [List.any_eq_true]
  constructor
  · intro found
    rcases found with ⟨step, listed, isDeref⟩
    cases step with
    | field index => simp [Step.isDeref] at isDeref
    | deref => exact listed
  · intro listed
    exact ⟨.deref, listed, rfl⟩

theorem mem_roots_filter_iff (target : Place) (test : Place → Bool) (position : Int) :
    position ∈ ((some target).filter test).toList.map Place.root ↔
      target.root = position ∧ test target = true := by
  cases passed : test target <;> simp [Option.filter, passed, eq_comm]

theorem Liveness.isLive_eq_ok {liveness : Liveness} {label : Nat}
    {set : IndexSet liveness.locals} (here : liveness.states.at? label = some set)
    (position : Nat) : liveness.isLive label position = .ok (set.contains position) := by
  have stored : liveness.states.before label = .ok (some set) :=
    requireAt_natCast.mpr (Option.join_eq_some_iff.mp here)
  unfold isLive
  rw [stored]
  simp [bind, Except.bind, pure, Except.pure]

namespace Body

variable {body : Body} {program : Program}

/-- A write discards the value of a local if the local is all that it writes. -/
theorem eq_ofLocal_iff (target : Place) (position : Int) :
    target.root = position ∧ target.isLocal = true ↔ target = .ofLocal position := by
  rw [Place.isLocal_iff]
  constructor
  · intro parts
    rw [← parts.1]
    exact parts.2
  · intro same
    rw [same]
    exact ⟨rfl, rfl⟩

theorem mem_defs_iff (position : Nat) (instr : Instr) :
    (position : Int) ∈ instr.defs ↔ Discards position instr := by
  constructor
  · intro listed
    cases instr with
    | assign target source next =>
        rw [(eq_ofLocal_iff target position).mp ((mem_roots_filter_iff _ _ _).mp listed)]
        exact .assigned
    | call function arguments target next =>
        rw [(eq_ofLocal_iff target position).mp ((mem_roots_filter_iff _ _ _).mp listed)]
        exact .answered
    | deinit victim next =>
        rw [← List.mem_singleton.mp listed]
        exact .ended
    | goto | branch | ret => simp [Instr.defs, Instr.target?] at listed
  · intro discards
    cases discards with
    | assigned | answered =>
        exact (mem_roots_filter_iff _ _ _).mpr ((eq_ofLocal_iff _ _).mpr rfl)
    | ended => exact List.mem_singleton.mpr rfl

theorem mem_roots_ofLocal_iff (arguments : List Int) (position : Int) :
    position ∈ (arguments.map Place.ofLocal).map Place.root ↔ position ∈ arguments := by
  simp [Place.ofLocal]

/-- The lists of the analysis, told apart: operands, a pointer that is written
through, and the result. -/
theorem mem_uses_iff (result : Option Int) (position : Int) (instr : Instr) :
    position ∈ instr.uses result ↔
      position ∈ instr.operands.map Place.root ∨
        position ∈ (instr.target?.filter Place.hasDeref).toList.map Place.root ∨
        (instr = .ret ∧ result = some position) := by
  simp only [Instr.uses, List.map_append, List.mem_append, or_assoc]
  apply or_congr Iff.rfl
  apply or_congr Iff.rfl
  by_cases isReturn : instr = .ret <;> simp [isReturn]

/-- The local that a return reads is the one that holds the result. -/
theorem InOrder.returned?_iff (inOrder : body.InOrder program) (position : Nat) :
    body.returned? = some (position : Int) ↔ body.kindOf? position = some .result := by
  rw [← inOrder.returnLocal?_iff, returned?, Option.map_eq_some_iff]
  constructor
  · intro found
    rcases found with ⟨index, returned, same⟩
    rw [← Int.ofNat.inj same]
    exact returned
  · intro returned
    exact ⟨position, returned, rfl⟩

theorem InOrder.mem_uses_iff_reads (inOrder : body.InOrder program) (position : Nat)
    (instr : Instr) :
    (position : Int) ∈ instr.uses body.returned? ↔ body.Reads position instr := by
  rw [mem_uses_iff, inOrder.returned?_iff]
  constructor
  · intro listed
    rcases listed with operand | pointer | returned
    · cases instr with
      | assign target source next =>
          cases source with
          | use place => exact .use (List.mem_singleton.mp operand).symm
          | borrow mutability place => exact .borrow (List.mem_singleton.mp operand).symm
          | unary operator place => exact .operand (List.mem_singleton.mp operand).symm
          | binary operator left right =>
              rcases List.mem_cons.mp operand with same | rest
              · exact .left same.symm
              · exact .right (List.mem_singleton.mp rest).symm
          | make struct arguments => exact .member ((mem_roots_ofLocal_iff _ _).mp operand)
          | const | unit | missing => exact absurd operand List.not_mem_nil
      | call function arguments target next =>
          exact .argument ((mem_roots_ofLocal_iff _ _).mp operand)
      | branch condition yes no =>
          have same : (position : Int) = condition := List.mem_singleton.mp operand
          rw [← same]
          exact .condition
      | deinit | goto | ret => exact absurd operand List.not_mem_nil
    · cases instr with
      | assign target source next =>
          have parts := (mem_roots_filter_iff target _ _).mp pointer
          exact .assigned parts.1 (target.hasDeref_iff.mp parts.2)
      | call function arguments target next =>
          have parts := (mem_roots_filter_iff target _ _).mp pointer
          exact .answered parts.1 (target.hasDeref_iff.mp parts.2)
      | deinit | goto | branch | ret => exact absurd pointer List.not_mem_nil
    · rw [returned.1]
      exact .result returned.2
  · intro reads
    cases reads with
    | use rooted | borrow rooted | operand rooted =>
        exact .inl (List.mem_singleton.mpr rooted.symm)
    | left rooted => exact .inl (List.mem_cons.mpr (.inl rooted.symm))
    | right rooted => exact .inl (List.mem_cons_of_mem _ (List.mem_singleton.mpr rooted.symm))
    | member listed | argument listed => exact .inl ((mem_roots_ofLocal_iff _ _).mpr listed)
    | condition => exact .inl (List.mem_singleton.mpr rfl)
    | assigned rooted follows | answered rooted follows =>
        exact .inr (.inl ((mem_roots_filter_iff _ _ _).mpr
          ⟨rooted, (Place.hasDeref_iff _).mpr follows⟩))
    | result returned => exact .inr (.inr ⟨rfl, returned⟩)

/-! ## Paths -/

def ReadsAt (body : Body) (position label : Nat) : Prop :=
  ∃ instr, body.instr? label = some instr ∧ body.Reads position instr

def DiscardsAt (body : Body) (position label : Nat) : Prop :=
  ∃ instr, body.instr? label = some instr ∧ Discards position instr

/-- A read at the end of a walk that discards nothing is a later read at its
start. -/
theorem readLater_of_walk {position start label : Nat} {labels : List Nat}
    (walk : Walk body.Edge start labels label) (later : body.ReadLater position label)
    (kept : ∀ earlier ∈ labels, ¬ body.DiscardsAt position earlier) :
    body.ReadLater position start := by
  induction walk with
  | here => exact later
  | next before step inductionHypothesis =>
      rename_i labels source target
      have keptBefore : ∀ earlier ∈ labels, ¬ body.DiscardsAt position earlier :=
        fun earlier listed => kept earlier (List.mem_append_left _ listed)
      have keptHere := kept source (List.mem_append_right _ (List.mem_singleton.mpr rfl))
      rcases step with ⟨instr, here, jump⟩
      refine inductionHypothesis (.later here ?_ ⟨instr, here, jump⟩ later) keptBefore
      intro discards
      exact keptHere ⟨instr, here, (mem_defs_iff position instr).mp discards⟩

/-- A local is read later if and only if a walk that does not discard it leads to an
instruction that reads it. -/
theorem InOrder.readLater_iff_walk (inOrder : body.InOrder program) (position label : Nat) :
    body.ReadLater position label ↔
      ∃ labels last, Walk body.Edge label labels last ∧ body.ReadsAt position last ∧
        ∀ earlier ∈ labels, ¬ body.DiscardsAt position earlier := by
  constructor
  · intro readLater
    induction readLater with
    | here found reads =>
        exact ⟨[], _, .here, ⟨_, found, (inOrder.mem_uses_iff_reads _ _).mp reads⟩, by simp⟩
    | @later label next instr found kept step rest inductionHypothesis =>
        rcases inductionHypothesis with ⟨labels, last, walk, reads, keptLater⟩
        refine ⟨label :: labels, last, walk.cons step, reads, ?_⟩
        intro earlier listed
        rcases List.mem_cons.mp listed with rfl | listed
        · intro discards
          rcases discards with ⟨other, alsoFound, discards⟩
          rw [Option.some.inj (alsoFound.symm.trans found)] at discards
          exact kept ((mem_defs_iff position instr).mpr discards)
        · exact keptLater earlier listed
  · intro path
    rcases path with ⟨labels, last, walk, ⟨instr, here, reads⟩, kept⟩
    exact readLater_of_walk walk (.here here ((inOrder.mem_uses_iff_reads _ _).mpr reads)) kept

/-- At a reachable label there is an answer to the question whether a local is
live. -/
theorem exists_isLive {flow : Flow} (found : body.flow = .ok flow) {label : Nat}
    (reached : body.Reachable label) (position : Nat) :
    ∃ live, (body.liveness flow).isLive label position = .ok live ∧
      (live = true ↔ position ∈ (body.liveness flow).liveAt label) := by
  have listed := (Flow.mem_reachable_iff found label).mpr reached
  rcases Flow.setsAfter_of_reachable IndexSet.empty body.liveBefore listed with ⟨after, there, _⟩
  have solved : ∃ set, (body.liveness flow).states.at? label = some set := by
    change ∃ set, (flow.solveBackward IndexSet.empty body.liveBefore).at? label = some set
    rw [Flow.at?_solveBackward, there]
    exact ⟨_, rfl⟩
  rcases solved with ⟨set, here⟩
  refine ⟨set.contains position, Liveness.isLive_eq_ok here position, ?_⟩
  rw [Liveness.mem_liveAt_iff, here]
  simp

/-- Liveness is exact along paths.  The live locals of a valid body can be asked for
at every reachable label, and live there are exactly the locals that some path
from the label leads to a read of, without discarding them before. -/
theorem isLive_iff_path (valid : body.IsValid) :
    ∃ flow, body.flow = .ok flow ∧ ∀ label, body.Reachable label → ∀ position : Nat,
      ∃ live, (body.liveness flow).isLive label position = .ok live ∧
        (live = true ↔
          ∃ labels last, Walk body.Edge label labels last ∧ body.ReadsAt position last ∧
            ∀ earlier ∈ labels, ¬ body.DiscardsAt position earlier) := by
  rcases valid.inOrder with ⟨program, inOrder⟩
  rcases inOrder.exists_flow with ⟨flow, found⟩
  refine ⟨flow, found, fun label reached position => ?_⟩
  rcases exists_isLive found reached position with ⟨live, answered, live_iff⟩
  refine ⟨live, answered, ?_⟩
  rw [live_iff, inOrder.mem_liveAt_iff_readLater found, inOrder.readLater_iff_walk]
  exact and_iff_right reached

/-- A loop that stores through a pointer, which is pointed elsewhere behind the
loop and not used again. -/
def storingLoop : Body :=
  { name := "storing"
    program := some (.ofDeclarations [] [])
    locals := [
      { name := "out", kind := .result, type := .unit },
      { name := "flag", kind := .parameter, type := .bool },
      { name := "value", kind := .parameter, type := .int },
      { name := "pointer", type := .borrow (.inferred 1) .unique .int }]
    code := [
      { instr := some (.assign (.ofLocal 3) (.borrow .unique (.ofLocal 2)) 1) },
      { instr := some (.branch 1 2 3) },
      { instr := some (.assign (Place.ofLocal 3).deref (.const 1) 1) },
      { instr := some (.assign (.ofLocal 3) (.borrow .unique (.ofLocal 2)) 4) },
      { instr := some (.assign (.ofLocal 0) .unit 5) },
      { instr := some .ret }] }

/-- In front of the loop's test the pointer is live, because the store writes through
it.  Behind the loop it is not, so no path from there reads it as it stands. -/
theorem storingLoop_pointer_live :
    ∃ flow, storingLoop.flow = .ok flow ∧
      (storingLoop.liveness flow).isLive 1 3 = .ok true ∧
      (storingLoop.liveness flow).isLive 3 3 = .ok false ∧
      ¬ ∃ labels last, Walk storingLoop.Edge 3 labels last ∧ storingLoop.ReadsAt 3 last ∧
        ∀ earlier ∈ labels, ¬ storingLoop.DiscardsAt 3 earlier := by
  have valid : storingLoop.IsValid := rfl
  rcases isLive_iff_path valid with ⟨flow, found, exact⟩
  have toTest : Walk storingLoop.Edge storingLoop.entry.toNat [0] 1 :=
    .next .here ⟨_, rfl, by decide⟩
  have behind : Walk storingLoop.Edge storingLoop.entry.toNat [0, 1] 3 :=
    .next toTest ⟨_, rfl, by decide⟩
  have evaluated : (do
      let flow ← storingLoop.flow
      (storingLoop.liveness flow).isLive 3 3).toOption = some false := by
    decide +kernel
  refine ⟨flow, found, ?_, ?_⟩
  · rcases exact 1 ⟨_, toTest⟩ 3 with ⟨live, answered, live_iff⟩
    have isLive : live = true := by
      apply live_iff.mpr
      refine ⟨[1], 2, .next .here ⟨_, rfl, by decide⟩, ⟨_, rfl, .assigned rfl (by decide)⟩, ?_⟩
      intro earlier listed
      rw [List.mem_singleton.mp listed]
      intro discards
      rcases discards with ⟨instr, here, discards⟩
      rw [← Option.some.inj here] at discards
      cases discards
    rw [← isLive]
    exact answered
  · rcases exact 3 ⟨_, behind⟩ 3 with ⟨live, answered, live_iff⟩
    have notLive : live = false := by
      have answeredBehind : (storingLoop.liveness flow).isLive 3 3 = .ok live := answered
      rw [found] at evaluated
      simpa [bind, Except.bind, answeredBehind, Except.toOption] using evaluated
    refine ⟨notLive ▸ answered, fun path => ?_⟩
    have isLive := live_iff.mpr path
    rw [notLive] at isLive
    exact absurd isLive Bool.false_ne_true

end Body
end BorrowChecker
