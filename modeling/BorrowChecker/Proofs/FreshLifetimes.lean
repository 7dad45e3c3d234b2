import BorrowChecker.Proofs.Jumps
import BorrowChecker.Proofs.TypeUnfolding

namespace BorrowChecker

/-!
Fresh lifetimes are fresh.

Every structure that a body builds and every function that it calls is instantiated at
lifetimes of its own.  They all come out of one supply, which is handed from statement
to statement and starts behind the highest number that the types of the locals and the
generics mention.  The lifetimes of all sites together are therefore what a single
request would take out of that supply, and it gives out increasing numbers as long as
there are numbers left.  Lifetimes that only the declarations mention are not looked
at, and the supply may give out one of those.
-/

/-! ## The supply -/

namespace FreshSupply

/-- Taking lifetimes twice is taking them at once. -/
theorem take_add (supply : FreshSupply) (first second : Nat) :
    supply.take (first + second) =
      ((supply.take first).1 ++ ((supply.take first).2.take second).1,
        ((supply.take first).2.take second).2) := by
  induction first generalizing supply with
  | zero => simp [take]
  | succ first inductionHypothesis => simp [Nat.succ_add, take, inductionHypothesis]

private theorem successor_of_lt {number : Int} (nonnegative : 0 ≤ number)
    (room : 2 * (number + 1) < wordCount) : successor number = number + 1 := by
  unfold wordCount at room
  unfold successor wordCount
  apply Int.bmod_eq_of_le <;> omega

/-- As long as numbers are left, they increase, and none of them was given out
before. -/
theorem increasing_take (supply : FreshSupply) (count : Nat) (nonnegative : 0 ≤ supply.last)
    (room : 2 * (supply.last + count) < wordCount) :
    (supply.take count).1.Pairwise (fun early late => early.number < late.number) ∧
      ∀ lifetime ∈ (supply.take count).1, supply.last < lifetime.number := by
  induction count generalizing supply with
  | zero => simp [take]
  | succ count inductionHypothesis =>
      have following : successor supply.last = supply.last + 1 :=
        successor_of_lt nonnegative (by omega)
      have next : supply.next =
          (.inferred (supply.last + 1), { last := supply.last + 1 }) := by
        simp [FreshSupply.next, following]
      rcases inductionHypothesis { last := supply.last + 1 } (by simp; omega)
        (by simp; omega) with ⟨increasing, above⟩
      simp only [take, next, List.pairwise_cons, List.forall_mem_cons]
      refine ⟨⟨above, increasing⟩, ?_, ?_⟩
      · exact Int.lt_succ supply.last
      · intro lifetime listed
        have later := above lifetime listed
        simp only at later
        omega

end FreshSupply

/-! ## The highest number of a body -/

private theorem le_foldl_max {α : Type} (number : α → Int) (members : List α) (start : Int) :
    start ≤ members.foldl (fun highest member => max highest (number member)) start ∧
      ∀ member ∈ members,
        number member ≤
          members.foldl (fun highest member => max highest (number member)) start := by
  induction members generalizing start with
  | nil => simp
  | cons first rest inductionHypothesis =>
      rcases inductionHypothesis (max start (number first)) with ⟨above, others⟩
      rw [List.foldl_cons, List.forall_mem_cons]
      exact ⟨by omega, by omega, others⟩

namespace Body

private theorem highestNumber_nonneg (body : Body) : 0 ≤ body.highestNumber :=
  Int.le_trans (le_foldl_max (fun entry : Local => entry.type.highestNumber) body.locals 0).1
    (le_foldl_max Lifetime.number body.generics _).1

private theorem number_le_of_generic {body : Body} {lifetime : Lifetime}
    (listed : lifetime ∈ body.generics) : lifetime.number ≤ body.highestNumber :=
  (le_foldl_max Lifetime.number body.generics _).2 lifetime listed

private theorem number_le_of_local {body : Body} {entry : Local} (listed : entry ∈ body.locals)
    {lifetime : Lifetime} (occurs : lifetime ∈ entry.type.lifetimes) :
    lifetime.number ≤ body.highestNumber :=
  calc
    lifetime.number ≤ entry.type.highestNumber :=
      (le_foldl_max Lifetime.number entry.type.lifetimes 0).2 lifetime occurs
    _ ≤ body.locals.foldl (fun highest entry => max highest entry.type.highestNumber) 0 :=
      (le_foldl_max (fun entry : Local => entry.type.highestNumber) body.locals 0).2 entry listed
    _ ≤ body.highestNumber := (le_foldl_max Lifetime.number body.generics _).1

end Body

/-! ## What an instruction takes -/

/-- A renaming replaces each of the given lifetimes by the fresh one in its position and
keeps all others.  A lifetime that is given more than once is replaced by the fresh one
in its last position. -/
structure Replaces (change : Lifetime → Lifetime) (given fresh : List Lifetime) : Prop where
  sameLength : fresh.length = given.length
  replaced : ∀ (position : Nat) lifetime, given[position]? = some lifetime →
    lifetime ∉ given.drop (position + 1) → fresh[position]? = some (change lifetime)
  kept : ∀ lifetime, lifetime ∉ given → change lifetime = lifetime

theorem replaces_binding {given fresh : List Lifetime} (sameLength : fresh.length = given.length) :
    Replaces (Renaming.binding given fresh).apply given fresh := by
  refine ⟨sameLength, ?_, fun _ unknown => Renaming.apply_binding_of_not_mem fresh unknown⟩
  intro position lifetime there last
  rcases List.getElem?_eq_some_iff.mp there with ⟨inGiven, rfl⟩
  have inFresh : position < fresh.length := sameLength ▸ inGiven
  have inZip : position < (given.zip fresh).length := by
    rw [List.length_zip]
    omega
  have found : (given.zip fresh).reverse.lookup given[position] = some fresh[position] := by
    rw [List.lookup_eq_some_iff]
    refine ⟨((given.zip fresh).drop (position + 1)).reverse,
      ((given.zip fresh).take position).reverse, ?_, ?_⟩
    · have split := List.take_append_drop position (given.zip fresh)
      rw [List.drop_eq_getElem_cons inZip, List.getElem_zip] at split
      have backwards := congrArg List.reverse split
      simpa using backwards.symm
    · intro pair listed
      rw [List.mem_reverse, List.zip, List.drop_zipWith] at listed
      have later := (List.of_mem_zip (a := pair.1) (b := pair.2) listed).1
      rw [bne_iff_ne]
      intro same
      exact last (same ▸ later)
  rw [List.getElem?_eq_getElem inFresh, Renaming.apply, Renaming.binding, Renaming.ofPairs, found]
  rfl

namespace Instr

/-- How many lifetimes an instruction takes out of the supply: one for each parameter of
the structure it builds, or for each generic of the function it calls. -/
def freshCount (program : Program) : Instr → Nat
  | assign _ (.make name _) _ =>
      ((program.struct? name).map fun decl => decl.parameters.length).getD 0
  | call name _ _ _ =>
      ((program.function? name).map fun signature => signature.generics.length).getD 0
  | _ => 0

/-- An instruction that finds one supply and leaves another has used the fresh lifetimes
for what it builds or calls: the declared types with the parameters or generics replaced
by them.  Other instructions use none. -/
def Instantiates (program : Program) (supply rest : FreshSupply) (fresh : List Lifetime) :
    Instr → Prop
  | assign _ (.make name _) _ =>
      ∃ decl change, program.struct? name = some decl ∧
        Replaces change decl.parameters fresh ∧
        program.instantiateStruct supply name =
          .ok (.struct name fresh, (decl.fields.map FieldDecl.type).map (Ty.rename change), rest)
  | call name _ _ _ =>
      ∃ signature change, program.function? name = some signature ∧
        Replaces change signature.generics fresh ∧
        signature.instantiate supply = (signature.rename change, rest)
  | _ => fresh = [] ∧ rest = supply

end Instr

namespace Program

private theorem function_eq_ok {program : Program} {name : String} {signature : Signature} :
    program.function name = .ok signature ↔ program.function? name = some signature := by
  unfold function
  cases program.function? name <;> simp

end Program

theorem Collected.supply_unify {collected after : Collected} {left right : Ty}
    (unified : collected.unify left right = .ok after) : after.supply = collected.supply := by
  rcases bind_eq_ok.mp unified with ⟨graph, _, result⟩
  rw [← Except.ok.inj result]

namespace Body

theorem supply_unifyArguments {body : Body} {collected after : Collected}
    {typed : List (Ty × Int)} (unified : body.unifyArguments collected typed = .ok after) :
    after.supply = collected.supply := by
  induction typed generalizing collected with
  | nil => rw [Except.ok.inj unified]
  | cons first rest inductionHypothesis =>
      rcases bind_eq_ok.mp unified with ⟨_, _, unified⟩
      rcases bind_eq_ok.mp unified with ⟨middle, head, tail⟩
      exact (inductionHypothesis tail).trans (Collected.supply_unify head)

private theorem supply_borrowDemands {body : Body} {collected after : Collected}
    {target place : Place}
    (demanded : body.borrowDemands collected target place = .ok after) :
    after.supply = collected.supply := by
  unfold borrowDemands at demanded
  rcases bind_eq_ok.mp demanded with ⟨targetType, _, demanded⟩
  split at demanded
  · rcases bind_eq_ok.mp demanded with ⟨_, _, demanded⟩
    rcases bind_eq_ok.mp demanded with ⟨middle, unified, demanded⟩
    rcases bind_eq_ok.mp demanded with ⟨_, _, result⟩
    have same : after.supply = middle.supply :=
      (congrArg Collected.supply (Except.ok.inj result)).symm
    rw [same, Collected.supply_unify unified]
  · simp at demanded

/-- The demands of an instruction are collected with the lifetimes it takes, and the
supply is left behind them. -/
theorem instantiates_of_instrDemands {body : Body} {program : Program} {before after : Collected}
    {instr : Instr} (demanded : body.instrDemands program before instr = .ok after) :
    instr.Instantiates program before.supply after.supply
        (before.supply.take (instr.freshCount program)).1 ∧
      after.supply = (before.supply.take (instr.freshCount program)).2 := by
  cases instr with
  | assign target source next =>
      cases source with
      | use place =>
          rcases bind_eq_ok.mp demanded with ⟨_, _, demanded⟩
          rcases bind_eq_ok.mp demanded with ⟨_, _, unified⟩
          have same := Collected.supply_unify unified
          exact ⟨⟨rfl, same⟩, same⟩
      | borrow mutability place =>
          have same := supply_borrowDemands demanded
          exact ⟨⟨rfl, same⟩, same⟩
      | make name arguments =>
          rcases bind_eq_ok.mp demanded with ⟨⟨type, fields, rest⟩, instantiated, demanded⟩
          rcases bind_eq_ok.mp demanded with ⟨_, unifiedArguments, demanded⟩
          rcases bind_eq_ok.mp demanded with ⟨_, _, unified⟩
          have same : after.supply = rest :=
            (Collected.supply_unify unified).trans
              (supply_unifyArguments (unifyPositions_eq_ok.mp unifiedArguments).2)
          rcases bind_eq_ok.mp instantiated with ⟨decl, declared, _⟩
          have found := Program.struct_eq_ok.mp declared
          rw [Program.instantiateStruct_of_declared found] at instantiated
          rcases Except.ok.inj instantiated with ⟨rfl, rfl, rfl⟩
          have count : (Instr.assign target (.make name arguments) next).freshCount program =
              decl.parameters.length := by
            simp [Instr.freshCount, found]
          rw [count, same]
          exact ⟨⟨decl, _, found, replaces_binding (by simp),
            Program.instantiateStruct_of_declared found _⟩, rfl⟩
      | missing => simp [instrDemands] at demanded
      | const | unit | unary | binary =>
          rw [Except.ok.inj demanded]
          exact ⟨⟨rfl, rfl⟩, rfl⟩
  | call name arguments target next =>
      rcases bind_eq_ok.mp demanded with ⟨signature, declared, demanded⟩
      rcases bind_eq_ok.mp demanded with ⟨_, _, demanded⟩
      rcases bind_eq_ok.mp demanded with ⟨_, unifiedArguments, demanded⟩
      rcases bind_eq_ok.mp demanded with ⟨_, _, unified⟩
      have found := Program.function_eq_ok.mp declared
      have same : after.supply = (before.supply.take signature.generics.length).2 :=
        (Collected.supply_unify unified).trans
          (supply_unifyArguments (unifyPositions_eq_ok.mp unifiedArguments).2)
      have count : (Instr.call name arguments target next).freshCount program =
          signature.generics.length := by
        simp [Instr.freshCount, found]
      rw [count, same]
      exact ⟨⟨signature, _, found, replaces_binding (by simp), rfl⟩, rfl⟩
  | deinit | goto | branch | ret =>
      rw [Except.ok.inj demanded]
      exact ⟨⟨rfl, rfl⟩, rfl⟩

/-! ## The run over the code -/

def collectedBefore (body : Body) (label : Nat) : Except Fault Collected :=
  (body.withCode (body.code.take label)).collectDemands { last := body.highestNumber }

def generatedAt (body : Body) (program : Program) (label : Nat) : List Lifetime :=
  match body.collectedBefore label, body.instr? label with
  | .ok before, some instr => (before.supply.take (instr.freshCount program)).1
  | _, _ => []

def generatedBefore (body : Body) (program : Program) (label : Nat) : List Lifetime :=
  (List.range label).flatMap (body.generatedAt program)

def generated (body : Body) (program : Program) : List Lifetime :=
  body.generatedBefore program body.code.length

section Run

variable {body : Body} {program : Program} {last : Collected}

theorem collectedBefore_eq (declared : body.program = some program) (label : Nat) :
    body.collectedBefore label =
      body.locals.foldlM (localDemands program)
          (body.generics.foldl OutlivesGraph.register OutlivesGraph.empty) >>= fun graph =>
        (body.code.take label).foldlM (body.stmtDemands program)
          { graph, supply := { last := body.highestNumber } } := by
  have asked : (body.withCode (body.code.take label)).requireProgram = .ok program := by
    simp [requireProgram, withCode, declared]
  unfold collectedBefore collectDemands
  rw [asked, stmtDemands_withCode]
  rfl

theorem collectedBefore_length :
    body.collectedBefore body.code.length =
      body.collectDemands { last := body.highestNumber } := by
  unfold collectedBefore
  rw [List.take_length]
  rfl

/-- The statement at a label adds its demands to those collected before. -/
theorem collectedBefore_succ (declared : body.program = some program) {label : Nat} {stmt : Stmt}
    (there : body.code[label]? = some stmt) :
    body.collectedBefore (label + 1) =
      body.collectedBefore label >>= fun before => body.stmtDemands program before stmt := by
  rcases List.getElem?_eq_some_iff.mp there with ⟨below, rfl⟩
  rw [collectedBefore_eq declared, collectedBefore_eq declared, bind_assoc,
    List.take_succ_eq_append_getElem below]
  simp only [List.foldlM_append, List.foldlM_cons, List.foldlM_nil, bind_pure]

/-- A run that succeeds has a state before each of its statements. -/
theorem exists_collectedBefore (declared : body.program = some program)
    (collected : body.collectDemands { last := body.highestNumber } = .ok last) (label : Nat) :
    ∃ before, body.collectedBefore label = .ok before := by
  rw [← collectedBefore_length, collectedBefore_eq declared, List.take_length] at collected
  rcases bind_eq_ok.mp collected with ⟨graph, ofLocals, ofCode⟩
  rw [← List.take_append_drop label body.code, List.foldlM_append] at ofCode
  rcases bind_eq_ok.mp ofCode with ⟨before, early, _⟩
  exact ⟨before,
    (collectedBefore_eq declared label).trans (bind_eq_ok.mpr ⟨graph, ofLocals, early⟩)⟩

/-- The state before the next label results from the instruction, which uses the
lifetimes it takes. -/
theorem exists_step (declared : body.program = some program)
    (collected : body.collectDemands { last := body.highestNumber } = .ok last) {label : Nat}
    (below : label < body.code.length) :
    ∃ instr before after, body.instr? label = some instr ∧
      body.collectedBefore label = .ok before ∧
      body.collectedBefore (label + 1) = .ok after ∧
      body.instrDemands program before instr = .ok after ∧
      instr.Instantiates program before.supply after.supply (body.generatedAt program label) ∧
      before.supply.take (body.generatedAt program label).length =
        (body.generatedAt program label, after.supply) := by
  rcases exists_collectedBefore declared collected label with ⟨before, early⟩
  rcases exists_collectedBefore declared collected (label + 1) with ⟨after, late⟩
  have there := List.getElem?_eq_getElem below
  have stepped : body.stmtDemands program before body.code[label] = .ok after := by
    rw [← late, collectedBefore_succ declared there, early]
    rfl
  cases present : body.code[label].instr with
  | none => simp [stmtDemands, present] at stepped
  | some instr =>
      have here : body.instr? label = some instr := instr?_eq_some.mpr ⟨_, there, present⟩
      have demanded : body.instrDemands program before instr = .ok after := by
        rw [← stepped, stmtDemands, present]
      have taken : body.generatedAt program label =
          (before.supply.take (instr.freshCount program)).1 := by
        simp [generatedAt, early, here]
      rcases instantiates_of_instrDemands demanded with ⟨instantiates, left⟩
      refine ⟨instr, before, after, here, early, late, demanded, taken ▸ instantiates, ?_⟩
      rw [taken, FreshSupply.length_take, left]

/-- The lifetimes that are taken before a label are taken from the supply in one go. -/
theorem take_generatedBefore (declared : body.program = some program)
    (collected : body.collectDemands { last := body.highestNumber } = .ok last) {label : Nat}
    (inside : label ≤ body.code.length) {before : Collected}
    (early : body.collectedBefore label = .ok before) :
    FreshSupply.take { last := body.highestNumber } (body.generatedBefore program label).length =
      (body.generatedBefore program label, before.supply) := by
  induction label generalizing before with
  | zero =>
      rw [collectedBefore_eq declared] at early
      rcases bind_eq_ok.mp early with ⟨graph, _, result⟩
      rw [← Except.ok.inj result]
      rfl
  | succ label inductionHypothesis =>
      rcases exists_step declared collected inside with
        ⟨_, start, after, _, atLabel, late, _, _, taken⟩
      have same : after = before := Except.ok.inj (late.symm.trans early)
      have sofar := inductionHypothesis (Nat.le_of_lt inside) atLabel
      have grown : body.generatedBefore program (label + 1) =
          body.generatedBefore program label ++ body.generatedAt program label := by
        simp [generatedBefore, List.range_succ]
      rw [grown, List.length_append, FreshSupply.take_add, sofar]
      simp only [taken, same]

/-- The lifetimes that are generated for a body whose demands can be collected are
pairwise different, within one statement and across statements, and none of them occurs
in the type of a local or among the generics, as long as the numbers do not run out.
Each statement finds the supply as the one before left it.  What it builds or calls is
the declared structure or function, with its parameters or generics replaced by the
lifetimes of that statement and all other lifetimes kept. -/
theorem generated_lifetimes_hygienic (declared : body.program = some program)
    (collected : body.collectDemands { last := body.highestNumber } = .ok last)
    (room : 2 * (body.highestNumber + (body.generated program).length) < FreshSupply.wordCount) :
    (body.generated program).Nodup ∧
    (∀ lifetime ∈ body.generated program, lifetime ∉ body.generics ∧
      ∀ entry ∈ body.locals, lifetime ∉ entry.type.lifetimes) ∧
    ∀ label < body.code.length, ∃ instr before after, body.instr? label = some instr ∧
      body.collectedBefore label = .ok before ∧
      body.collectedBefore (label + 1) = .ok after ∧
      body.instrDemands program before instr = .ok after ∧
      instr.Instantiates program before.supply after.supply
        (body.generatedAt program label) := by
  have whole := take_generatedBefore declared collected (Nat.le_refl _)
    (collectedBefore_length.trans collected)
  have taken : body.generated program = (FreshSupply.take { last := body.highestNumber }
      (body.generated program).length).1 := (congrArg Prod.fst whole).symm
  rcases FreshSupply.increasing_take { last := body.highestNumber }
    (body.generated program).length body.highestNumber_nonneg room with ⟨increasing, above⟩
  rw [← taken] at increasing above
  refine ⟨?_, ?_, ?_⟩
  · refine increasing.imp ?_
    rintro early late less rfl
    exact Int.lt_irrefl _ less
  · intro lifetime isGenerated
    have beyond : body.highestNumber < lifetime.number := above lifetime isGenerated
    constructor
    · intro listed
      exact Int.not_lt.mpr (number_le_of_generic listed) beyond
    · intro entry listed occurs
      exact Int.not_lt.mpr (number_le_of_local listed occurs) beyond
  · intro label below
    rcases exists_step declared collected below with
      ⟨instr, before, after, here, early, late, demanded, instantiates, _⟩
    exact ⟨instr, before, after, here, early, late, demanded, instantiates⟩

end Run

/-- A function that lists one of its generics twice and mentions a lifetime that is not
generic. -/
def pickSignature : Signature :=
  { name := "pick"
    generics := [.named "a", .named "b", .named "a"]
    parameters := [.borrow (.named "a") .shared .int, .borrow (.named "b") .shared .int]
    result := .borrow (.named "s") .shared .int }

def pickingProgram : Program :=
  .ofDeclarations
    [{ name := "Pair"
       parameters := [.named "p", .named "q"]
       fields := [{ name := "first", type := .borrow (.named "p") .shared .int },
                  { name := "second", type := .borrow (.named "q") .shared .int }] }]
    [pickSignature]

/-- A body that builds a structure and calls the function twice. -/
def pickedTwice : Body :=
  { name := "picked"
    program := some pickingProgram
    locals := [
      { name := "out", kind := .result, type := .borrow (.named "s") .shared .int },
      { name := "x", kind := .parameter, type := .borrow (.inferred 3) .shared .int },
      { name := "pair", type := .struct "Pair" [.inferred 5, .inferred 4] }]
    code := [
      { instr := some (.assign (.ofLocal 2) (.make "Pair" [1, 1]) 1) },
      { instr := some (.call "pick" [1, 1] (.ofLocal 0) 2) },
      { instr := some (.call "pick" [1, 1] (.ofLocal 0) 3) },
      { instr := some .ret }]
    generics := [.named "s"] }

/-- The three sites take eight lifetimes.  The second call replaces the repeated generic
by the last of its own lifetimes and keeps the one that is not generic. -/
theorem pickedTwice_lifetimes_hygienic :
    pickedTwice.generated pickingProgram =
        [6, 7, 8, 9, 10, 11, 12, 13].map Lifetime.inferred ∧
      (pickedTwice.generated pickingProgram).Nodup ∧
      (∀ entry ∈ pickedTwice.locals, .inferred 13 ∉ entry.type.lifetimes) ∧
      ∃ before after, pickedTwice.collectedBefore 2 = .ok before ∧
        pickSignature.instantiate before.supply = ({ pickSignature with
          parameters := [.borrow (.inferred 13) .shared .int, .borrow (.inferred 12) .shared .int]
          result := .borrow (.named "s") .shared .int }, after) := by
  have listed : pickedTwice.generated pickingProgram =
      [6, 7, 8, 9, 10, 11, 12, 13].map Lifetime.inferred := by
    decide +kernel
  have declared : pickedTwice.program = some pickingProgram := rfl
  have evaluated : ∃ last,
      pickedTwice.collectDemands { last := pickedTwice.highestNumber } = .ok last := ⟨_, rfl⟩
  rcases evaluated with ⟨last, collected⟩
  have room : 2 * (pickedTwice.highestNumber +
      ((pickedTwice.generated pickingProgram).length : Int)) < FreshSupply.wordCount := by
    rw [listed]
    decide +kernel
  rcases generated_lifetimes_hygienic declared collected room with ⟨distinct, apart, sites⟩
  refine ⟨listed, distinct, (apart (.inferred 13) (by rw [listed]; decide)).2, ?_⟩
  rcases sites 2 (by decide) with ⟨instr, before, after, here, early, _, _, instantiates⟩
  rcases Option.some.inj here with rfl
  rcases instantiates with ⟨signature, change, found, replaces, instantiated⟩
  have isPick : pickSignature = signature := Option.some.inj found
  rw [← isPick] at replaces instantiated
  have fresh : pickedTwice.generatedAt pickingProgram 2 = [11, 12, 13].map Lifetime.inferred := by
    decide +kernel
  rw [fresh] at replaces
  have ofRepeated : change (.named "a") = .inferred 13 :=
    (Option.some.inj (replaces.replaced 2 (.named "a") rfl (by decide))).symm
  have ofOther : change (.named "b") = .inferred 12 :=
    (Option.some.inj (replaces.replaced 1 (.named "b") rfl (by decide))).symm
  have ofStatic : change (.named "s") = .named "s" := replaces.kept _ (by decide)
  refine ⟨before, after.supply, early, instantiated.trans ?_⟩
  simp [Signature.rename, pickSignature, Ty.rename, ofRepeated, ofOther, ofStatic]

end Body
end BorrowChecker
