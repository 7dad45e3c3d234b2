import BorrowChecker.Sequences
import BorrowChecker.Validity

namespace BorrowChecker

/-!
What validation guarantees.

The tests of a valid body are taken apart once, here.  Everything that relies on
validity uses the named parts and does not look at the order of the tests.
-/

theorem demand_eq_ok {condition : Bool} {defect : Defect} :
    demand condition defect = .ok () ↔ condition = true := by
  cases condition <;> simp [demand]

namespace Body

def kindOf? (body : Body) (position : Int) : Option LocalKind :=
  (memberAt body.locals position).map Local.kind

theorem mem_localsOfKind_iff (body : Body) (kind : LocalKind) (position : Nat) :
    position ∈ body.localsOfKind kind ↔ body.kindOf? position = some kind := by
  unfold localsOfKind kindOf?
  rw [memberAt_natCast, List.mem_filter, List.mem_range]
  cases found : body.locals[position]? with
  | none => simp
  | some entry =>
      have below := (List.getElem?_eq_some_iff.mp found).1
      simp [below]

theorem instr?_eq_some {body : Body} {label : Nat} {instr : Instr} :
    body.instr? label = some instr ↔
      ∃ stmt, body.code[label]? = some stmt ∧ stmt.instr = some instr :=
  Option.bind_eq_some_iff

/-- An instruction stands in a statement with some location. -/
theorem exists_loc_of_instr? {body : Body} {label : Nat} {instr : Instr}
    (here : body.instr? label = some instr) :
    ∃ loc, body.code[label]? = some { instr := some instr, loc } := by
  rcases instr?_eq_some.mp here with ⟨⟨content, loc⟩, there, present⟩
  have isInstr : content = some instr := present
  rw [isInstr] at there
  exact ⟨loc, there⟩

theorem lt_length_of_instr? {body : Body} {label : Nat} {instr : Instr}
    (here : body.instr? label = some instr) : label < body.code.length := by
  rcases instr?_eq_some.mp here with ⟨_, there, _⟩
  exact (List.getElem?_eq_some_iff.mp there).1

/-- The parts of validity that concern one instruction. -/
structure InstrInOrder (body : Body) (program : Program) (label : Nat) (instr : Instr) :
    Prop where
  jumps : ∀ next ∈ instr.successors, inRange body.code.length next = true
  places : ∀ place ∈ instr.places, inRange body.locals.length place.root = true
  arity : body.checkArity program label instr = .ok ()

namespace InstrInOrder

variable {body : Body} {program : Program} {label : Nat}

theorem enough_fields {target : Place} {name : String} {arguments : List Int} {next : Int}
    (inOrder : body.InstrInOrder program label (.assign target (.make name arguments) next))
    {decl : StructDecl} (declared : program.struct? name = some decl) :
    decl.fields.length = arguments.length := by
  have counted := inOrder.arity
  simp only [checkArity, declared] at counted
  simpa using demand_eq_ok.mp counted

theorem enough_arguments {name : String} {arguments : List Int} {target : Place} {next : Int}
    (inOrder : body.InstrInOrder program label (.call name arguments target next))
    {signature : Signature} (declared : program.function? name = some signature) :
    signature.parameters.length = arguments.length := by
  have counted := inOrder.arity
  simp only [checkArity, declared] at counted
  simpa using demand_eq_ok.mp counted

end InstrInOrder

/-- The parts of validity. -/
structure InOrder (body : Body) (program : Program) : Prop where
  declared : body.program = some program
  typed : ∀ entry ∈ body.locals, entry.type ≠ .missing
  oneResult : (body.localsOfKind .result).length = 1
  entryInRange : inRange body.code.length body.entry = true
  instrs : ∀ label stmt, body.code[label]? = some stmt →
    ∃ instr, stmt.instr = some instr ∧ body.InstrInOrder program label instr

private theorem checkStmt_eq_ok {body : Body} {program : Program} {label : Nat} {stmt : Stmt}
    (passed : body.checkStmt program label stmt = .ok ()) :
    ∃ instr, stmt.instr = some instr ∧ body.InstrInOrder program label instr := by
  unfold checkStmt at passed
  split at passed
  · simp at passed
  · rename_i instr present
    simp only [bind_eq_ok] at passed
    rcases passed with ⟨_, jumps, _, places, arity⟩
    exact ⟨instr, present,
      { jumps := fun next listed => demand_eq_ok.mp (forM_eq_ok.mp jumps next listed)
        places := fun place listed => demand_eq_ok.mp (forM_eq_ok.mp places place listed)
        arity }⟩

private theorem inOrder_of_checkStructure {body : Body} (passed : body.checkStructure = .ok ()) :
    ∃ program, body.InOrder program := by
  unfold checkStructure at passed
  cases declared : body.program with
  | none => simp [declared, bind, Except.bind] at passed
  | some program =>
      simp only [declared, pure, Except.pure, bind_eq_ok, Except.ok.injEq,
        exists_eq_left'] at passed
      rcases passed with ⟨_, types, _, results, _, _, _, entry, stmts⟩
      refine ⟨program,
        { declared
          typed := fun entry listed => ?_
          oneResult := by simpa using demand_eq_ok.mp results
          entryInRange := demand_eq_ok.mp entry
          instrs := fun label stmt here => ?_ }⟩
      · have passedHere := demand_eq_ok.mp (forM_eq_ok.mp types entry listed)
        simpa using passedHere
      · have below : label < body.code.length := (List.getElem?_eq_some_iff.mp here).1
        have passedHere := forM_eq_ok.mp stmts label (List.mem_range.mpr below)
        rw [here] at passedHere
        exact checkStmt_eq_ok passedHere

theorem IsValid.inOrder {body : Body} (valid : body.IsValid) :
    ∃ program, body.InOrder program := by
  unfold IsValid validate at valid
  split at valid
  · exact inOrder_of_checkStructure ‹_›
  · simp at valid

theorem returnLocal_eq_ok {body : Body} {position : Nat} :
    body.returnLocal = .ok position ↔ body.returnLocal? = some position := by
  unfold returnLocal
  cases body.returnLocal? <;> simp

namespace InOrder

variable {body : Body} {program : Program}

theorem requireProgram (inOrder : body.InOrder program) : body.requireProgram = .ok program := by
  simp [Body.requireProgram, inOrder.declared]

/-- Every label of a body has an instruction. -/
theorem exists_instr (inOrder : body.InOrder program) {label : Nat}
    (below : label < body.code.length) : ∃ instr, body.instr? label = some instr := by
  rcases inOrder.instrs label _ (List.getElem?_eq_getElem below) with ⟨instr, present, _⟩
  exact ⟨instr, instr?_eq_some.mpr ⟨_, List.getElem?_eq_getElem below, present⟩⟩

theorem instrInOrder (inOrder : body.InOrder program) {label : Nat} {instr : Instr}
    (here : body.instr? label = some instr) : body.InstrInOrder program label instr := by
  rcases instr?_eq_some.mp here with ⟨stmt, found, present⟩
  rcases inOrder.instrs label stmt found with ⟨other, alsoPresent, parts⟩
  have sameInstr : other = instr := Option.some.inj (alsoPresent.symm.trans present)
  rw [← sameInstr]
  exact parts

/-- A body whose parts are in order is valid. -/
theorem isValid (inOrder : body.InOrder program) : body.IsValid := by
  have nonempty : (!body.code.isEmpty) = true := by
    rcases (inRange_iff _ _).mp inOrder.entryInRange with ⟨label, _, below⟩
    have occupied : body.code ≠ [] := List.ne_nil_of_length_pos (Nat.zero_lt_of_lt below)
    simpa using occupied
  have types : body.checkLocalTypes = .ok () := forM_eq_ok.mpr fun entry listed =>
    demand_eq_ok.mpr (by simpa using inOrder.typed entry listed)
  have stmts : ∀ label stmt, body.code[label]? = some stmt →
      body.checkStmt program label stmt = .ok () := by
    intro label stmt here
    rcases inOrder.instrs label stmt here with ⟨instr, present, parts⟩
    simp only [checkStmt, present, bind_eq_ok]
    exact ⟨(), forM_eq_ok.mpr fun next listed => demand_eq_ok.mpr (parts.jumps next listed),
      (), forM_eq_ok.mpr fun place listed => demand_eq_ok.mpr (parts.places place listed),
      parts.arity⟩
  have structured : body.checkStructure = .ok () := by
    simp only [checkStructure, inOrder.declared, bind_eq_ok]
    refine ⟨program, rfl, (), types, (), demand_eq_ok.mpr (by simpa using inOrder.oneResult),
      (), demand_eq_ok.mpr nonempty, (), demand_eq_ok.mpr inOrder.entryInRange, ?_⟩
    apply forM_eq_ok.mpr
    intro label _
    cases here : body.code[label]? with
    | none => rfl
    | some stmt => exact stmts label stmt here
  unfold IsValid validate
  rw [structured]

/-- The result is the only local of its kind. -/
theorem returnLocal?_iff (inOrder : body.InOrder program)
    (position : Nat) :
    body.returnLocal? = some position ↔ body.kindOf? position = some .result := by
  rw [← mem_localsOfKind_iff]
  rcases List.length_eq_one_iff.mp inOrder.oneResult with ⟨only, single⟩
  simp [returnLocal?, single, eq_comm]

theorem exists_returnLocal? (inOrder : body.InOrder program) :
    ∃ position, body.returnLocal? = some position := by
  rcases List.length_eq_one_iff.mp inOrder.oneResult with ⟨only, single⟩
  exact ⟨only, by simp [returnLocal?, single]⟩

end InOrder
end Body
end BorrowChecker
