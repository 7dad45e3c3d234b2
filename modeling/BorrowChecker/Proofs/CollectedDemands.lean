import BorrowChecker.Proofs.OutlivesGraph
import BorrowChecker.Proofs.ValidBodies
import BorrowChecker.Region.Constraints

namespace BorrowChecker

/-!
What the collected demands of a body guarantee.

Collecting only ever adds demands.  The graph of a body therefore contains what
each of its instructions asked for, whatever was recorded before and after.  An
instruction that hands a reference from one local to another asks for enough
that every lifetime in the type of the giver outlives one in the type of the
receiver.  For building a structure this needs field types that mention no
lifetimes but the parameters of the structure: others would not be tied to the
type that receives the structure.
-/

namespace OutlivesGraph

/-! ## Extensions of a graph -/

/-- One graph has the demands of another, and perhaps further ones. -/
def Extension (before after : OutlivesGraph) : Prop :=
  ∀ long short, before.outlives long short = true → after.outlives long short = true

namespace Extension

theorem refl (graph : OutlivesGraph) : Extension graph graph :=
  fun _ _ recorded => recorded

theorem trans {first second third : OutlivesGraph} (early : Extension first second)
    (late : Extension second third) : Extension first third :=
  fun long short recorded => late long short (early long short recorded)

end Extension

theorem extension_addAll (graph : OutlivesGraph) (demands : List Outlives) :
    Extension graph (graph.addAll demands) :=
  fun long short recorded => (outlives_addAll graph demands long short).mpr (.inl recorded)

private theorem extension_equateAll (graph : OutlivesGraph) (pairs : List (Lifetime × Lifetime)) :
    Extension graph (graph.equateAll pairs) :=
  fun long short recorded => (outlives_equateAll graph pairs long short).mpr (.inl recorded)

/-- A demand is met by its edge, or by reflexivity if both sides are the same. -/
theorem outlasts_of_outlives {graph : OutlivesGraph} {long short : Lifetime}
    (recorded : long ≠ short → graph.outlives long short = true) : graph.Outlasts long short := by
  by_cases same : long = short
  · rw [same]
    exact .refl short
  · exact .step (recorded same) (.refl short)

/-! ## Passing from lifetimes to lifetimes -/

/-- Every lifetime of one list outlives some lifetime of the other. -/
def Passes (graph : OutlivesGraph) (givers receivers : List Lifetime) : Prop :=
  ∀ long ∈ givers, ∃ short ∈ receivers, graph.Outlasts long short

namespace Passes

variable {graph : OutlivesGraph} {first second third : List Lifetime}

theorem refl (lifetimes : List Lifetime) : graph.Passes lifetimes lifetimes :=
  fun long member => ⟨long, member, .refl long⟩

theorem trans (front : graph.Passes first second) (back : graph.Passes second third) :
    graph.Passes first third := by
  intro long member
  rcases front long member with ⟨middle, inSecond, outlasts⟩
  rcases back middle inSecond with ⟨short, inThird, rest⟩
  exact ⟨short, inThird, outlasts.trans rest⟩

theorem extend {larger : OutlivesGraph} (extension : Extension graph larger)
    (passes : graph.Passes first second) : larger.Passes first second := by
  intro long member
  rcases passes long member with ⟨short, inSecond, outlasts⟩
  exact ⟨short, inSecond, outlasts.mono extension⟩

/-- Lifetimes that outlive those at equal positions are passed on. -/
theorem of_positions (sameLength : first.length = second.length)
    (recorded : ∀ position (inFirst : position < first.length)
      (inSecond : position < second.length), first[position] ≠ second[position] →
        graph.outlives first[position] second[position] = true) : graph.Passes first second := by
  intro long member
  rcases List.mem_iff_getElem.mp member with ⟨position, inFirst, rfl⟩
  have inSecond : position < second.length := sameLength ▸ inFirst
  exact ⟨second[position], List.getElem_mem inSecond,
    outlasts_of_outlives (recorded position inFirst inSecond)⟩

end Passes

end OutlivesGraph

/-! ## Matching types -/

theorem mem_zip_of_lt {α β : Type} {first : List α} {second : List β} {position : Nat}
    (inFirst : position < first.length) (inSecond : position < second.length) :
    (first[position], second[position]) ∈ first.zip second := by
  have inZip : position < (first.zip second).length := by
    rw [List.length_zip]
    omega
  have entry := List.getElem_mem inZip
  rwa [List.getElem_zip] at entry

namespace Ty

/-- Types that match have equally many lifetimes, and the pairs are those at equal
positions. -/
theorem matching_eq_zip {left right : Ty} (matched : (left.matching right).2 = none) :
    left.lifetimes.length = right.lifetimes.length ∧
      (left.matching right).1 = left.lifetimes.zip right.lifetimes := by
  induction left generalizing right with
  | borrow lifetime mutability target inductionHypothesis =>
      cases right with
      | borrow lifetime' mutability' target' =>
          rcases inductionHypothesis matched with ⟨sameLength, pairs⟩
          simp only [matching, lifetimes, List.length_cons, List.zip_cons_cons, pairs, sameLength,
            and_self]
      | unit | int | bool | struct | missing => simp [matching] at matched
  | struct name arguments =>
      cases right with
      | struct name' arguments' =>
          simp only [matching] at matched ⊢
          split at matched
          · simp at matched
          · split at matched
            · simp at matched
            · rename_i sameName sameLength
              simp only [lifetimes]
              rw [if_neg sameName, if_neg sameLength]
              exact ⟨Decidable.not_not.mp sameLength, rfl⟩
      | unit | int | bool | borrow | missing => simp [matching] at matched
  | unit | int | bool =>
      cases right <;> first | exact ⟨rfl, rfl⟩ | simp [matching] at matched
  | missing => simp [matching] at matched

/-- No type matches a borrow of itself. -/
theorem matching_borrow_self_ne_none (type : Ty) (lifetime : Lifetime)
    (mutability : Mutability) :
    (type.matching (.borrow lifetime mutability type)).2 ≠ none := by
  induction type generalizing lifetime mutability with
  | borrow inner innerMutability target inductionHypothesis =>
      exact inductionHypothesis inner innerMutability
  | unit | int | bool | struct | missing => simp [matching]

end Ty

namespace OutlivesGraph

/-- Unification succeeds on types that match, and equates the lifetimes at equal
positions. -/
theorem unified_eq_ok {graph after : OutlivesGraph} {left right : Ty} :
    graph.unified left right = .ok after ↔
      (left.matching right).2 = none ∧
        after = graph.equateAll (left.lifetimes.zip right.lifetimes) := by
  unfold unified unify
  rcases found : left.matching right with ⟨pairs, difference⟩
  cases difference with
  | none =>
      have matched : (left.matching right).2 = none := by rw [found]
      have positions : pairs = left.lifetimes.zip right.lifetimes := by
        rw [← (Ty.matching_eq_zip matched).2, found]
      simp [positions, eq_comm]
  | some fault => simp

end OutlivesGraph

namespace Collected

theorem unify_eq_ok {collected after : Collected} {left right : Ty}
    (unified : collected.unify left right = .ok after) :
    (left.matching right).2 = none ∧
      after.graph = collected.graph.equateAll (left.lifetimes.zip right.lifetimes) := by
  rcases bind_eq_ok.mp unified with ⟨graph, extended, result⟩
  rw [← Except.ok.inj result]
  exact OutlivesGraph.unified_eq_ok.mp extended

theorem extension_unify {collected after : Collected} {left right : Ty}
    (unified : collected.unify left right = .ok after) :
    collected.graph.Extension after.graph := by
  rw [(unify_eq_ok unified).2]
  exact OutlivesGraph.extension_equateAll _ _

/-- Equated types pass their lifetimes to each other. -/
theorem passes_unify {collected after : Collected} {left right : Ty}
    (unified : collected.unify left right = .ok after) :
    after.graph.Passes left.lifetimes right.lifetimes ∧
      after.graph.Passes right.lifetimes left.lifetimes := by
  rcases unify_eq_ok unified with ⟨matched, graph⟩
  have sameLength := (Ty.matching_eq_zip matched).1
  rw [graph]
  constructor
  · apply OutlivesGraph.Passes.of_positions sameLength
    intro position inLeft inRight different
    apply (OutlivesGraph.outlives_equateAll _ _ _ _).mpr
    exact .inr ⟨different, .inl (mem_zip_of_lt inLeft inRight)⟩
  · apply OutlivesGraph.Passes.of_positions sameLength.symm
    intro position inRight inLeft different
    apply (OutlivesGraph.outlives_equateAll _ _ _ _).mpr
    exact .inr ⟨different, .inr (mem_zip_of_lt inLeft inRight)⟩

end Collected

/-! ## Structures at fresh lifetimes -/

/-- Every parameter is bound to one of the arguments. -/
theorem Renaming.exists_lookup_binding {parameters arguments : List Lifetime}
    (sameLength : parameters.length = arguments.length) {lifetime : Lifetime}
    (known : lifetime ∈ parameters) :
    ∃ argument ∈ arguments,
      (Renaming.binding parameters arguments).lookup lifetime = some argument := by
  rcases List.mem_iff_getElem.mp known with ⟨position, inParameters, rfl⟩
  have entry := mem_zip_of_lt inParameters (sameLength ▸ inParameters)
  unfold Renaming.binding Renaming.ofPairs
  cases found : (parameters.zip arguments).reverse.lookup parameters[position] with
  | none =>
      have absent := List.lookup_eq_none_iff.mp found _ (List.mem_reverse.mpr entry)
      simp at absent
  | some argument =>
      rcases List.lookup_eq_some_iff.mp found with ⟨before, after, whole, _⟩
      have listed : (parameters[position], argument) ∈ (parameters.zip arguments).reverse := by
        rw [whole]
        simp
      exact ⟨argument, (List.of_mem_zip (List.mem_reverse.mp listed)).2, rfl⟩

theorem Renaming.apply_binding_mem {parameters arguments : List Lifetime}
    (sameLength : parameters.length = arguments.length) {lifetime : Lifetime}
    (known : lifetime ∈ parameters) :
    (Renaming.binding parameters arguments).apply lifetime ∈ arguments := by
  rcases Renaming.exists_lookup_binding sameLength known with ⟨argument, isArgument, bound⟩
  rw [Renaming.apply, bound]
  exact isArgument

/-- The field types of every structure mention only its own parameters. -/
def Program.FieldsUseParameters (program : Program) : Prop :=
  ∀ decl ∈ program.structs, ∀ field ∈ decl.fields, ∀ lifetime ∈ field.type.lifetimes,
    lifetime ∈ decl.parameters

namespace Program

theorem struct_eq_ok {program : Program} {name : String} {decl : StructDecl} :
    program.struct name = .ok decl ↔ program.struct? name = some decl := by
  unfold struct
  cases program.struct? name <;> simp

/-- A declared structure is instantiated at the lifetimes that its parameters take out
of the supply. -/
theorem instantiateStruct_of_declared {program : Program} {name : String} {decl : StructDecl}
    (declared : program.struct? name = some decl) (supply : FreshSupply) :
    program.instantiateStruct supply name =
      .ok (.struct name (supply.take decl.parameters.length).1,
        (decl.fields.map FieldDecl.type).map (Ty.rename (Renaming.binding decl.parameters
          (supply.take decl.parameters.length).1).apply),
        (supply.take decl.parameters.length).2) := by
  have sameLength : decl.parameters.length = (supply.take decl.parameters.length).1.length := by
    simp
  refine bind_eq_ok.mpr ⟨decl, struct_eq_ok.mpr declared,
    bind_eq_ok.mpr ⟨_, if_pos sameLength, ?_⟩⟩
  rw [List.map_map]
  rfl

/-- A structure instantiated at fresh lifetimes: its fields are as many as were
declared, and mention only those lifetimes. -/
theorem instantiateStruct_eq_ok {program : Program} {supply rest : FreshSupply} {name : String}
    {type : Ty} {fields : List Ty}
    (instantiated : program.instantiateStruct supply name = .ok (type, fields, rest)) :
    ∃ decl, program.struct? name = some decl ∧ fields.length = decl.fields.length ∧
      (program.FieldsUseParameters →
        ∀ field ∈ fields, ∀ lifetime ∈ field.lifetimes, lifetime ∈ type.lifetimes) := by
  rcases bind_eq_ok.mp instantiated with ⟨decl, declared, _⟩
  have found := struct_eq_ok.mp declared
  rw [instantiateStruct_of_declared found] at instantiated
  rcases Except.ok.inj instantiated with ⟨rfl, rfl, rfl⟩
  refine ⟨decl, found, by simp, ?_⟩
  intro usesParameters field isField lifetime occurs
  rw [List.map_map] at isField
  rcases List.mem_map.mp isField with ⟨declaredField, listed, rfl⟩
  rw [Function.comp, Ty.lifetimes_rename] at occurs
  rcases List.mem_map.mp occurs with ⟨parameter, mentioned, rfl⟩
  have known := usesParameters decl (List.mem_of_find?_eq_some found) declaredField listed
    parameter mentioned
  exact Renaming.apply_binding_mem (supply.length_take _).symm known

end Program

/-! ## The demands of a body -/

namespace Body

theorem localType_eq_ok {body : Body} {position : Int} {type : Ty} :
    body.localType position = .ok type ↔
      ∃ entry, memberAt body.locals position = some entry ∧ entry.type = type := by
  unfold localType
  rw [bind_eq_ok]
  simp [requireAt_eq_ok, pure, Except.pure]

theorem exists_localType {body : Body} {position : Int}
    (inside : inRange body.locals.length position = true) :
    ∃ type, body.localType position = .ok type := by
  rcases (inRange_iff _ _).mp inside with ⟨index, rfl, below⟩
  refine ⟨(body.locals.get ⟨index, below⟩).type, localType_eq_ok.mpr ⟨_, ?_, rfl⟩⟩
  rw [memberAt_natCast, List.getElem?_eq_getElem below]
  rfl

@[simp] theorem typeOf_ofLocal (body : Body) (position : Int) :
    body.typeOf (.ofLocal position) = body.localType position := by
  unfold typeOf Place.ofLocal
  cases body.localType position <;> rfl

theorem extension_unifyArguments {body : Body} {collected after : Collected}
    {typed : List (Ty × Int)} (unified : body.unifyArguments collected typed = .ok after) :
    collected.graph.Extension after.graph := by
  induction typed generalizing collected with
  | nil =>
      rw [Except.ok.inj unified]
      exact .refl _
  | cons first rest inductionHypothesis =>
      rcases bind_eq_ok.mp unified with ⟨argumentType, _, unified⟩
      rcases bind_eq_ok.mp unified with ⟨middle, head, tail⟩
      exact (Collected.extension_unify head).trans (inductionHypothesis tail)

/-- Each argument passes its lifetimes to the type it is equated with. -/
theorem passes_unifyArguments {body : Body} {collected after : Collected}
    {typed : List (Ty × Int)} (unified : body.unifyArguments collected typed = .ok after)
    {type argumentType : Ty} {argument : Int} (listed : (type, argument) ∈ typed)
    (declared : body.localType argument = .ok argumentType) :
    after.graph.Passes argumentType.lifetimes type.lifetimes := by
  induction typed generalizing collected with
  | nil => simp at listed
  | cons first rest inductionHypothesis =>
      rcases bind_eq_ok.mp unified with ⟨found, asked, unified⟩
      rcases bind_eq_ok.mp unified with ⟨middle, head, tail⟩
      rcases List.mem_cons.mp listed with rfl | later
      · have sameType : found = argumentType := Except.ok.inj (asked.symm.trans declared)
        rw [sameType] at head
        exact (Collected.passes_unify head).2.extend (extension_unifyArguments tail)
      · exact inductionHypothesis tail later

/-- As many arguments as types are equated one by one. -/
theorem unifyPositions_eq_ok {body : Body} {collected after : Collected} {types : List Ty}
    {arguments : List Int} {mismatch : Fault} :
    body.unifyPositions collected types arguments mismatch = .ok after ↔
      types.length = arguments.length ∧
        body.unifyArguments collected (types.zip arguments) = .ok after := by
  unfold unifyPositions
  split <;> simp_all

/-- Borrowing a place into a target, taken apart. -/
theorem borrowDemands_eq_ok {body : Body} {collected after : Collected} {target place : Place}
    (demanded : body.borrowDemands collected target place = .ok after) :
    ∃ lifetime mutability pointee placeType rootType middle,
      body.typeOf target = .ok (.borrow lifetime mutability pointee) ∧
      body.typeOf place = .ok placeType ∧
      body.localType place.root = .ok rootType ∧
      collected.unify pointee placeType = .ok middle ∧
      after.graph = middle.graph.addAll
        (rootType.freeLifetimes.map fun long => { long, short := lifetime }) := by
  unfold borrowDemands at demanded
  rcases bind_eq_ok.mp demanded with ⟨targetType, typed, demanded⟩
  split at demanded
  · rename_i lifetime mutability pointee
    rcases bind_eq_ok.mp demanded with ⟨placeType, placeTyped, demanded⟩
    rcases bind_eq_ok.mp demanded with ⟨middle, unified, demanded⟩
    rcases bind_eq_ok.mp demanded with ⟨rootType, rooted, result⟩
    have graph := congrArg Collected.graph (Except.ok.inj result)
    exact ⟨lifetime, mutability, pointee, placeType, rootType, middle, typed, placeTyped, rooted,
      unified, graph.symm⟩
  · simp at demanded

/-- An instruction only adds demands. -/
theorem extension_instrDemands {body : Body} {program : Program} {collected after : Collected}
    {instr : Instr} (demanded : body.instrDemands program collected instr = .ok after) :
    collected.graph.Extension after.graph := by
  cases instr with
  | assign target source next =>
      cases source with
      | use place =>
          rcases bind_eq_ok.mp demanded with ⟨_, _, demanded⟩
          rcases bind_eq_ok.mp demanded with ⟨_, _, unified⟩
          exact Collected.extension_unify unified
      | borrow mutability place =>
          rcases borrowDemands_eq_ok demanded with ⟨_, _, _, _, _, _, _, _, _, unified, graph⟩
          rw [graph]
          exact (Collected.extension_unify unified).trans (OutlivesGraph.extension_addAll _ _)
      | make name arguments =>
          rcases bind_eq_ok.mp demanded with ⟨_, _, demanded⟩
          rcases bind_eq_ok.mp demanded with ⟨_, arguments, demanded⟩
          rcases bind_eq_ok.mp demanded with ⟨_, _, unified⟩
          exact (extension_unifyArguments (unifyPositions_eq_ok.mp arguments).2).trans
            (Collected.extension_unify unified)
      | missing => simp [instrDemands] at demanded
      | const | unit | unary | binary =>
          rw [Except.ok.inj demanded]
          exact .refl _
  | call name arguments target next =>
      rcases bind_eq_ok.mp demanded with ⟨_, _, demanded⟩
      rcases bind_eq_ok.mp demanded with ⟨_, _, demanded⟩
      rcases bind_eq_ok.mp demanded with ⟨_, arguments, demanded⟩
      rcases bind_eq_ok.mp demanded with ⟨_, _, unified⟩
      have required := OutlivesGraph.extension_addAll collected.graph
      exact ((required _).trans
        (extension_unifyArguments (unifyPositions_eq_ok.mp arguments).2)).trans
        (Collected.extension_unify unified)
  | deinit | goto | branch | ret =>
      rw [Except.ok.inj demanded]
      exact .refl _

theorem extension_stmtDemands {body : Body} {program : Program} {collected after : Collected}
    {stmt : Stmt} (demanded : body.stmtDemands program collected stmt = .ok after) :
    collected.graph.Extension after.graph := by
  unfold stmtDemands at demanded
  split at demanded
  · exact extension_instrDemands demanded
  · simp at demanded

theorem extension_localDemands {program : Program} {graph after : OutlivesGraph} {entry : Local}
    (demanded : localDemands program graph entry = .ok after) : graph.Extension after := by
  rcases bind_eq_ok.mp demanded with ⟨demands, _, result⟩
  rw [← Except.ok.inj result]
  intro long short recorded
  refine OutlivesGraph.extension_addAll _ _ long short ?_
  rwa [OutlivesGraph.outlives_registerAll]

/-- The graph of a body, taken apart: the last demands are those of the statements. -/
theorem outlivesGraph_eq_ok {body : Body} {program : Program} (inOrder : body.InOrder program)
    {graph : OutlivesGraph} (found : body.outlivesGraph = .ok graph) :
    ∃ start last : Collected,
      body.code.foldlM (body.stmtDemands program) start = .ok last ∧ last.graph = graph := by
  rcases bind_eq_ok.mp found with ⟨last, collected, result⟩
  rcases bind_eq_ok.mp collected with ⟨declared, asked, collected⟩
  have sameProgram : declared = program := Except.ok.inj (asked.symm.trans inOrder.requireProgram)
  rw [sameProgram] at collected
  rcases bind_eq_ok.mp collected with ⟨locals, _, ofCode⟩
  exact ⟨_, last, ofCode, Except.ok.inj result⟩

/-- The graph of a body contains the demands of each instruction. -/
theorem exists_instrDemands {body : Body} {program : Program} (inOrder : body.InOrder program)
    {graph : OutlivesGraph} (found : body.outlivesGraph = .ok graph) {label : Nat} {instr : Instr}
    (here : body.instr? label = some instr) :
    ∃ before after, body.instrDemands program before instr = .ok after ∧
      after.graph.Extension graph := by
  rcases outlivesGraph_eq_ok inOrder found with ⟨start, last, ofCode, rfl⟩
  rcases instr?_eq_some.mp here with ⟨stmt, there, present⟩
  refine foldlM_established (motive := fun collected => ∃ before after,
    body.instrDemands program before instr = .ok after ∧
      after.graph.Extension collected.graph) ofCode (List.mem_of_getElem? there) ?_ ?_
  · intro current after stepped
    unfold stmtDemands at stepped
    rw [present] at stepped
    exact ⟨current, after, stepped, .refl _⟩
  · rintro current ⟨before, middle, demanded, extension⟩ other _ after stepped
    exact ⟨before, middle, demanded, extension.trans (extension_stmtDemands stepped)⟩

end Body
end BorrowChecker
