import BorrowChecker.Proofs.CollectedDemands
import BorrowChecker.Proofs.InitializationPaths

namespace BorrowChecker

/-!
Well-typed bodies.

In a well-typed body no type is left out, every structure type names a declared
structure with as many lifetime arguments as it has parameters, every place in the
code has a type, and the types that an instruction brings together have the same
shape.  Which lifetimes stand in the types plays no part.

Typing follows a path from well-formed types to well-formed types, and unfolding a
well-formed type comes to well-formed types only, however often a structure
contains itself.  The analyses of a well-typed body therefore all have a result.
Code that is never reached is included, because its demands are collected too.
-/

/-! ## Shapes -/

namespace Ty

private theorem sameShape_comm (left right : Ty) : left.sameShape right = right.sameShape left := by
  induction left generalizing right with
  | borrow lifetime mutability target inductionHypothesis =>
      cases right with
      | borrow _ _ target' => exact inductionHypothesis target'
      | unit | int | bool | struct | missing => rfl
  | struct name arguments =>
      cases right with
      | struct name' arguments' =>
          simp only [sameShape]
          rw [BEq.comm, @BEq.comm _ _ _ arguments.length]
      | unit | int | bool | borrow | missing => rfl
  | unit | int | bool | missing => cases right <;> rfl

/-- Renaming lifetimes keeps the shape of a type. -/
@[simp] theorem sameShape_rename (change : Lifetime → Lifetime) (left right : Ty) :
    (left.rename change).sameShape right = left.sameShape right := by
  induction left generalizing right with
  | borrow lifetime mutability target inductionHypothesis =>
      cases right with
      | borrow _ _ target' => exact inductionHypothesis target'
      | unit | int | bool | struct | missing => rfl
  | struct name arguments => cases right <;> simp [rename, sameShape]
  | unit | int | bool | missing => rfl

/-- The shape of a structure type does not depend on which arguments it has. -/
theorem sameShape_struct_congr {first second : List Lifetime}
    (sameLength : first.length = second.length) (name : String) (type : Ty) :
    (struct name first).sameShape type = (struct name second).sameShape type := by
  cases type <;> simp [sameShape, sameLength]

/-- Types of the same shape match. -/
theorem matching_of_sameShape {left right : Ty} (same : left.sameShape right = true) :
    (left.matching right).2 = none := by
  induction left generalizing right with
  | borrow lifetime mutability target inductionHypothesis =>
      cases right with
      | borrow _ _ target' => exact inductionHypothesis same
      | unit | int | bool | struct | missing => simp [sameShape] at same
  | struct name arguments =>
      cases right with
      | struct name' arguments' =>
          rw [sameShape, Bool.and_eq_true, beq_iff_eq, beq_iff_eq] at same
          simp [matching, same.1, same.2]
      | unit | int | bool | borrow | missing => simp [sameShape] at same
  | unit | int | bool => cases right <;> simp_all [sameShape, matching]
  | missing => simp [sameShape] at same

/-- Only types of the same shape match. -/
theorem sameShape_of_matching {left right : Ty} (matched : (left.matching right).2 = none) :
    left.sameShape right = true := by
  induction left generalizing right with
  | borrow lifetime mutability target inductionHypothesis =>
      cases right with
      | borrow _ _ target' => exact inductionHypothesis matched
      | unit | int | bool | struct | missing => simp [matching] at matched
  | struct name arguments =>
      cases right with
      | struct name' arguments' =>
          simp only [matching] at matched
          split at matched
          · simp at matched
          · split at matched
            · simp at matched
            · rename_i sameName sameLength
              simp [sameShape, Decidable.not_not.mp sameName, Decidable.not_not.mp sameLength]
      | unit | int | bool | borrow | missing => simp [matching] at matched
  | unit | int | bool => cases right <;> simp_all [sameShape, matching]
  | missing => simp [matching] at matched

end Ty

/-! ## Well-formed types -/

namespace Program

/-- Whether nothing is left out of a type and the structure it ends in is declared
with the number of lifetime arguments it is given. -/
def isWellFormed (program : Program) : Ty → Bool
  | .unit | .int | .bool => true
  | .struct name arguments =>
      (program.struct? name).any fun decl => decl.parameters.length == arguments.length
  | .borrow _ _ target => program.isWellFormed target
  | .missing => false

/-- The types in the declarations of a program are well formed.  Declarations that
are hidden by later ones do not matter. -/
structure WellTyped (program : Program) : Prop where
  fields : ∀ name decl, program.struct? name = some decl →
    ∀ field ∈ decl.fields, program.isWellFormed field.type = true
  signatures : ∀ name signature, program.function? name = some signature →
    ∀ type ∈ signature.parameters ++ [signature.result], program.isWellFormed type = true

def isWellTyped (program : Program) : Bool :=
  program.structs.all (fun decl => decl.fields.all fun field => program.isWellFormed field.type) &&
    program.functions.all fun signature =>
      (signature.parameters ++ [signature.result]).all program.isWellFormed

variable {program : Program}

theorem wellTyped_of_test (tested : program.isWellTyped = true) : program.WellTyped := by
  rw [isWellTyped, Bool.and_eq_true, List.all_eq_true, List.all_eq_true] at tested
  constructor
  · intro name decl declared
    exact List.all_eq_true.mp (tested.1 decl (List.mem_of_find?_eq_some declared))
  · intro name signature declared
    exact List.all_eq_true.mp (tested.2 signature (List.mem_of_find?_eq_some declared))

theorem isWellFormed_struct {name : String} {arguments : List Lifetime} :
    program.isWellFormed (.struct name arguments) = true ↔
      ∃ decl, program.struct? name = some decl ∧
        decl.parameters.length = arguments.length := by
  simp [isWellFormed, Option.any_eq_true]

@[simp] theorem isWellFormed_rename (change : Lifetime → Lifetime) (type : Ty) :
    program.isWellFormed (type.rename change) = program.isWellFormed type := by
  induction type with
  | borrow lifetime mutability target inductionHypothesis => exact inductionHypothesis
  | struct name arguments => simp [Ty.rename, isWellFormed]
  | unit | int | bool | missing => rfl

/-- A well-formed type ends in a well-formed structure, if it ends in one. -/
theorem isWellFormed_leaf {type : Ty} (wellFormed : program.isWellFormed type = true)
    {inst : Instance} (ends : type.leaf? = some inst) :
    program.isWellFormed (.struct inst.1 inst.2) = true := by
  induction type with
  | borrow lifetime mutability target inductionHypothesis =>
      exact inductionHypothesis wellFormed ends
  | struct name arguments =>
      rw [← Option.some.inj ends]
      exact wellFormed
  | unit | int | bool | missing => simp [Ty.leaf?] at ends

/-- Whether a value of a well-formed type is copied is known. -/
theorem exists_isCopyable {type : Ty} (wellFormed : program.isWellFormed type = true) :
    ∃ copyable, program.isCopyable type = .ok copyable := by
  cases type with
  | struct name arguments =>
      rcases isWellFormed_struct.mp wellFormed with ⟨decl, declared, _⟩
      exact ⟨_, bind_eq_ok.mpr ⟨decl, struct_eq_ok.mpr declared, rfl⟩⟩
  | unit | int | bool | borrow => exact ⟨_, rfl⟩
  | missing => simp [isWellFormed] at wellFormed

/-- A well-formed structure type has field types, and they are well formed. -/
theorem WellTyped.exists_fieldTypes (wellTyped : program.WellTyped) {name : String}
    {arguments : List Lifetime}
    (wellFormed : program.isWellFormed (.struct name arguments) = true) :
    ∃ fields, program.fieldTypes name arguments = .ok fields ∧
      ∀ field ∈ fields, program.isWellFormed field = true := by
  rcases isWellFormed_struct.mp wellFormed with ⟨decl, declared, sameLength⟩
  refine ⟨_, bind_eq_ok.mpr ⟨decl, struct_eq_ok.mpr declared, if_pos sameLength⟩, ?_⟩
  intro type listed
  rcases List.mem_map.mp listed with ⟨field, declaredField, rfl⟩
  rw [isWellFormed_rename]
  exact wellTyped.fields name decl declared field declaredField

/-- A declared structure instantiated at fresh lifetimes. -/
theorem exists_instantiateStruct {name : String} {decl : StructDecl}
    (declared : program.struct? name = some decl) (supply : FreshSupply) :
    ∃ arguments change rest, arguments.length = decl.parameters.length ∧
      program.instantiateStruct supply name = .ok (.struct name arguments,
        (decl.fields.map FieldDecl.type).map (Ty.rename change), rest) :=
  ⟨_, _, _, supply.length_take decl.parameters.length,
    instantiateStruct_of_declared declared supply⟩

/-! ## Unfolding -/

/-- The instance that is opened next ends one of the pending types, and the types
after it stay pending. -/
theorem exists_of_nextInstance {opened : List String} {pending rest : List Ty} {inst : Instance}
    (found : (nextInstance opened pending).2 = some (inst, rest)) :
    (∃ type ∈ pending, type.leaf? = some inst) ∧ ∀ type ∈ rest, type ∈ pending := by
  induction pending with
  | nil => simp [nextInstance] at found
  | cons first others inductionHypothesis =>
      have further (later : (nextInstance opened others).2 = some (inst, rest)) :
          (∃ type ∈ first :: others, type.leaf? = some inst) ∧
            ∀ type ∈ rest, type ∈ first :: others := by
        rcases inductionHypothesis later with ⟨⟨type, listed, ends⟩, kept⟩
        exact ⟨⟨type, List.mem_cons_of_mem _ listed, ends⟩,
          fun next inRest => List.mem_cons_of_mem _ (kept next inRest)⟩
      unfold nextInstance at found
      split at found
      · rename_i candidate ends
        split at found
        · exact further found
        · rcases Prod.mk.inj (Option.some.inj found) with ⟨rfl, rfl⟩
          exact ⟨⟨first, List.mem_cons_self, ends⟩,
            fun next inRest => List.mem_cons_of_mem _ inRest⟩
      · exact further found

/-- Opening the next of well-formed types leaves well-formed types pending. -/
theorem WellTyped.exists_opened (wellTyped : program.WellTyped) {opened : List String}
    {pending rest : List Ty} {inst : Instance}
    (wellFormed : ∀ type ∈ pending, program.isWellFormed type = true)
    (found : (nextInstance opened pending).2 = some (inst, rest)) :
    ∃ fields, program.fieldTypes inst.1 inst.2 = .ok fields ∧
      ∀ type ∈ fields ++ rest, program.isWellFormed type = true := by
  rcases exists_of_nextInstance found with ⟨⟨type, listed, ends⟩, kept⟩
  rcases wellTyped.exists_fieldTypes (isWellFormed_leaf (wellFormed type listed) ends) with
    ⟨fields, instantiated, fieldsWellFormed⟩
  refine ⟨fields, instantiated, ?_⟩
  intro next inNext
  rcases List.mem_append.mp inNext with isField | isLater
  · exact fieldsWellFormed next isField
  · exact wellFormed next (kept next isLater)

/-- Well-formed types unfold without a fault, however many instances may be opened. -/
theorem WellTyped.exists_unfoldDemands (wellTyped : program.WellTyped) (budget : Nat)
    (opened : List String) {pending : List Ty}
    (wellFormed : ∀ type ∈ pending, program.isWellFormed type = true) :
    ∃ demands, program.unfoldDemands budget opened pending = .ok demands := by
  induction budget generalizing opened pending with
  | zero =>
      unfold unfoldDemands
      split
      · exact ⟨_, rfl⟩
      · rename_i demands inst rest found
        rcases wellTyped.exists_opened wellFormed (congrArg Prod.snd found) with
          ⟨fields, instantiated, _⟩
        exact ⟨demands, bind_eq_ok.mpr ⟨fields, instantiated, rfl⟩⟩
  | succ budget inductionHypothesis =>
      unfold unfoldDemands
      split
      · exact ⟨_, rfl⟩
      · rename_i demands inst rest found
        rcases wellTyped.exists_opened wellFormed (congrArg Prod.snd found) with
          ⟨fields, instantiated, stillWellFormed⟩
        rcases inductionHypothesis (Instance.text inst :: opened) stillWellFormed with
          ⟨later, unfolded⟩
        exact ⟨demands ++ later, bind_eq_ok.mpr ⟨fields, instantiated,
          bind_eq_ok.mpr ⟨later, unfolded, rfl⟩⟩⟩

theorem WellTyped.exists_impliedOutlives (wellTyped : program.WellTyped) {type : Ty}
    (wellFormed : program.isWellFormed type = true) :
    ∃ demands, program.impliedOutlives type = .ok demands :=
  wellTyped.exists_unfoldDemands _ [] (by simpa using wellFormed)

/-- The types of a declared function can be unfolded at any lifetimes. -/
theorem WellTyped.exists_signatureDemands (wellTyped : program.WellTyped) {name : String}
    {signature : Signature} (declared : program.function? name = some signature)
    (change : Lifetime → Lifetime) :
    ∃ demands, ((signature.rename change).parameters ++ [(signature.rename change).result]).mapM
      program.impliedOutlives = .ok demands := by
  apply mapM_ok_of_forall
  intro type listed
  have renamed : type ∈ (signature.parameters ++ [signature.result]).map (Ty.rename change) := by
    simpa [Signature.rename] using listed
  rcases List.mem_map.mp renamed with ⟨origin, declaredType, rfl⟩
  apply wellTyped.exists_impliedOutlives
  rw [isWellFormed_rename]
  exact wellTyped.signatures name signature declared origin declaredType

end Program

/-- The lifetimes of types of the same shape can be equated. -/
theorem Collected.exists_unify (collected : Collected) {left right : Ty}
    (same : left.sameShape right = true) : ∃ after, collected.unify left right = .ok after := by
  refine ⟨_, bind_eq_ok.mpr ⟨collected.graph.equateAll (left.matching right).1, ?_, rfl⟩⟩
  simp only [OutlivesGraph.unified, OutlivesGraph.unify, Ty.matching_of_sameShape same]

/-- What an instruction may move is among the places that occur in it. -/
theorem Instr.mem_places_of_movable {instr : Instr} {place : Place}
    (isMovable : place ∈ instr.movable) : place ∈ instr.places := by
  refine List.mem_append_left _ ?_
  cases instr with
  | assign target source next =>
      cases borrowing : source.isBorrow with
      | true => simp [movable, borrowing] at isMovable
      | false => simpa [movable, borrowing, operands] using isMovable
  | call function arguments target next => exact isMovable
  | deinit | goto | branch | ret => simp [movable] at isMovable

namespace Body

/-! ## Well-typed bodies -/

def hasShape (body : Body) (type : Ty) (place : Place) : Bool :=
  (body.typeOf place).toOption.any type.sameShape

/-- Whether locals have types of the given shapes, one by one. -/
def haveShapes (body : Body) (types : List Ty) (positions : List Int) : Bool :=
  (types.zip positions).all fun pair => body.hasShape pair.1 (.ofLocal pair.2)

/-- Whether a place holds references to values of the shape of another place. -/
def canPointTo (body : Body) (target place : Place) : Bool :=
  match body.typeOf target with
  | .ok (.borrow _ _ pointee) => body.hasShape pointee place
  | _ => false

/-- Whether the types that an instruction brings together have the same shape.  How
many arguments there are is a question of validity. -/
def fits (body : Body) (program : Program) : Instr → Bool
  | .assign target (.use place) _ =>
      (body.typeOf target).toOption.any fun type => body.hasShape type place
  | .assign target (.borrow _ place) _ => body.canPointTo target place
  | .assign target (.make name arguments) _ =>
      (program.struct? name).any fun decl =>
        body.haveShapes (decl.fields.map FieldDecl.type) arguments &&
          body.hasShape (.struct name decl.parameters) target
  | .assign _ .missing _ => false
  | .call name arguments target _ =>
      (program.function? name).any fun signature =>
        body.haveShapes signature.parameters arguments && body.hasShape signature.result target
  | .assign _ (.const _) _ | .assign _ .unit _ | .assign _ (.unary _ _) _
  | .assign _ (.binary _ _ _) _ | .deinit _ _ | .goto _ | .branch _ _ _ | .ret => true

/-- A body is well typed in a program. -/
structure WellTyped (body : Body) (program : Program) : Prop where
  declared : body.program = some program
  declarations : program.WellTyped
  locals : ∀ entry ∈ body.locals, program.isWellFormed entry.type = true
  places : body.PlacesTyped
  instrs : ∀ label instr, body.instr? label = some instr → body.fits program instr = true

def isWellTyped (body : Body) (program : Program) : Bool :=
  program.isWellTyped && body.locals.all (fun entry => program.isWellFormed entry.type) &&
    body.placesTyped && body.code.all fun stmt => stmt.instr.all (body.fits program)

variable {body : Body} {program : Program}

theorem wellTyped_of_test (declared : body.program = some program)
    (tested : body.isWellTyped program = true) : body.WellTyped program := by
  simp only [isWellTyped, Bool.and_eq_true] at tested
  rcases tested with ⟨⟨⟨declarations, locals⟩, places⟩, instrs⟩
  refine
    { declared
      declarations := Program.wellTyped_of_test declarations
      locals := List.all_eq_true.mp locals
      places := placesTyped_of_test places
      instrs := fun label instr here => ?_ }
  rcases instr?_eq_some.mp here with ⟨stmt, there, present⟩
  have fitting := List.all_eq_true.mp instrs stmt (List.mem_of_getElem? there)
  rwa [present] at fitting

theorem hasShape_iff {type : Ty} {place : Place} :
    body.hasShape type place = true ↔
      ∃ found, body.typeOf place = .ok found ∧ type.sameShape found = true := by
  unfold hasShape
  cases body.typeOf place <;> simp [Except.toOption]

@[simp] theorem hasShape_rename (change : Lifetime → Lifetime) (type : Ty) (place : Place) :
    body.hasShape (type.rename change) place = body.hasShape type place := by
  rw [Bool.eq_iff_iff, hasShape_iff, hasShape_iff]
  simp only [Ty.sameShape_rename]

@[simp] theorem haveShapes_rename (change : Lifetime → Lifetime) (types : List Ty)
    (positions : List Int) :
    body.haveShapes (types.map (Ty.rename change)) positions =
      body.haveShapes types positions := by
  simp [haveShapes, List.zip_map_left, List.all_map, Function.comp_def]

/-! ## Questions about places -/

namespace WellTyped

theorem requireProgram (wellTyped : body.WellTyped program) :
    body.requireProgram = .ok program := by
  simp [Body.requireProgram, wellTyped.declared]

/-- A step leads from a well-formed type to a well-formed type. -/
theorem isWellFormed_stepType (wellTyped : body.WellTyped program) {place : Place}
    {type next : Ty} {step : Step} (wellFormed : program.isWellFormed type = true)
    (stepped : body.stepType place type step = .ok next) : program.isWellFormed next = true := by
  cases step with
  | deref =>
      cases type with
      | borrow lifetime mutability target =>
          rw [← Except.ok.inj stepped]
          exact wellFormed
      | unit | int | bool | struct | missing => simp [stepType] at stepped
  | field index =>
      cases type with
      | struct name arguments =>
          rcases bind_eq_ok.mp stepped with ⟨known, asked, stepped⟩
          rcases bind_eq_ok.mp stepped with ⟨fields, instantiated, selected⟩
          have sameProgram : known = program :=
            Except.ok.inj (asked.symm.trans wellTyped.requireProgram)
          rcases wellTyped.declarations.exists_fieldTypes wellFormed with
            ⟨found, alsoInstantiated, fieldsWellFormed⟩
          rw [sameProgram, alsoInstantiated] at instantiated
          rw [← Except.ok.inj instantiated] at selected
          split at selected
          · rename_i field there
            rw [← Except.ok.inj selected]
            exact fieldsWellFormed field (mem_of_memberAt there)
          · simp at selected
      | unit | int | bool | borrow | missing => simp [stepType] at stepped

/-- Places have well-formed types. -/
theorem isWellFormed_typeOf (wellTyped : body.WellTyped program) {place : Place} {type : Ty}
    (typed : body.typeOf place = .ok type) : program.isWellFormed type = true := by
  rcases bind_eq_ok.mp typed with ⟨rootType, rooted, walked⟩
  refine foldlM_preserves (motive := fun type => program.isWellFormed type = true) walked ?_ ?_
  · rcases localType_eq_ok.mp rooted with ⟨entry, there, rfl⟩
    exact wellTyped.locals entry (mem_of_memberAt there)
  · intro current wellFormed step _ next stepped
    exact wellTyped.isWellFormed_stepType wellFormed stepped

theorem exists_isCopyable (wellTyped : body.WellTyped program) {place : Place}
    (typed : ∃ type, body.typeOf place = .ok type) :
    ∃ copyable, body.isCopyable place = .ok copyable := by
  rcases typed with ⟨type, typed⟩
  rcases Program.exists_isCopyable (wellTyped.isWellFormed_typeOf typed) with ⟨copyable, answered⟩
  exact ⟨copyable, bind_eq_ok.mpr ⟨type, typed,
    bind_eq_ok.mpr ⟨program, wellTyped.requireProgram, answered⟩⟩⟩

theorem movesKnown (wellTyped : body.WellTyped program) : body.MovesKnown := by
  intro label instr _ here place isMovable
  exact wellTyped.exists_isCopyable
    (wellTyped.places place ⟨label, instr, here, Instr.mem_places_of_movable isMovable⟩)

end WellTyped

/-! ## Demands -/

/-- Locals of the right shapes can be equated with the given types. -/
theorem exists_unifyArguments (collected : Collected) {typed : List (Ty × Int)}
    (shaped : ∀ pair ∈ typed, body.hasShape pair.1 (.ofLocal pair.2) = true) :
    ∃ after, body.unifyArguments collected typed = .ok after := by
  induction typed generalizing collected with
  | nil => exact ⟨collected, rfl⟩
  | cons first rest inductionHypothesis =>
      rw [List.forall_mem_cons] at shaped
      rcases hasShape_iff.mp shaped.1 with ⟨argumentType, argumentTyped, same⟩
      rw [typeOf_ofLocal] at argumentTyped
      rcases collected.exists_unify same with ⟨middle, unified⟩
      rcases inductionHypothesis middle shaped.2 with ⟨after, remaining⟩
      exact ⟨after, bind_eq_ok.mpr ⟨argumentType, argumentTyped,
        bind_eq_ok.mpr ⟨middle, unified, remaining⟩⟩⟩

private theorem exists_borrowDemands (collected : Collected) {target place : Place}
    (fitting : body.canPointTo target place = true) :
    ∃ after, body.borrowDemands collected target place = .ok after := by
  unfold canPointTo at fitting
  split at fitting
  · rename_i lifetime mutability pointee targetTyped
    rcases hasShape_iff.mp fitting with ⟨placeType, placeTyped, same⟩
    rcases bind_eq_ok.mp placeTyped with ⟨rootType, rooted, _⟩
    rcases collected.exists_unify same with ⟨middle, unified⟩
    exact ⟨_, bind_eq_ok.mpr ⟨_, targetTyped, bind_eq_ok.mpr ⟨placeType, placeTyped,
      bind_eq_ok.mpr ⟨middle, unified, bind_eq_ok.mpr ⟨rootType, rooted, rfl⟩⟩⟩⟩⟩
  · simp at fitting

private theorem exists_makeDemands (collected : Collected) {name : String} {decl : StructDecl}
    (declared : program.struct? name = some decl) {arguments : List Int} {target : Place}
    (next : Int) (enough : decl.fields.length = arguments.length)
    (fields : body.haveShapes (decl.fields.map FieldDecl.type) arguments = true)
    (shaped : body.hasShape (.struct name decl.parameters) target = true) :
    ∃ after, body.instrDemands program collected (.assign target (.make name arguments) next) =
      .ok after := by
  rcases Program.exists_instantiateStruct declared collected.supply with
    ⟨fresh, change, supply, sameLength, instantiated⟩
  rw [← haveShapes_rename change] at fields
  rcases exists_unifyArguments { collected with supply }
    (List.all_eq_true.mp fields) with ⟨middle, passed⟩
  rcases hasShape_iff.mp shaped with ⟨targetType, targetTyped, same⟩
  rw [Ty.sameShape_struct_congr sameLength.symm, Ty.sameShape_comm] at same
  rcases middle.exists_unify same with ⟨after, unified⟩
  exact ⟨after, bind_eq_ok.mpr ⟨_, instantiated, bind_eq_ok.mpr ⟨middle,
    unifyPositions_eq_ok.mpr ⟨by simpa using enough, passed⟩,
    bind_eq_ok.mpr ⟨targetType, targetTyped, unified⟩⟩⟩⟩

private theorem exists_callDemands (collected : Collected) (wellTyped : program.WellTyped)
    {name : String} {signature : Signature} (declared : program.function? name = some signature)
    {arguments : List Int} {target : Place} (next : Int)
    (enough : signature.parameters.length = arguments.length)
    (parameters : body.haveShapes signature.parameters arguments = true)
    (shaped : body.hasShape signature.result target = true) :
    ∃ after, body.instrDemands program collected (.call name arguments target next) =
      .ok after := by
  have looked : program.function name = .ok signature := by simp [Program.function, declared]
  let fresh := collected.supply.take signature.generics.length
  let change := (Renaming.binding signature.generics fresh.1).apply
  rcases wellTyped.exists_signatureDemands declared change with ⟨demands, unfolded⟩
  rw [← haveShapes_rename change] at parameters
  rw [← hasShape_rename change] at shaped
  rcases exists_unifyArguments (Collected.require { collected with supply := fresh.2 }
    ((signature.rename change).outlives ++ demands.flatten))
    (List.all_eq_true.mp parameters) with ⟨middle, passed⟩
  rcases hasShape_iff.mp shaped with ⟨targetType, targetTyped, same⟩
  rcases middle.exists_unify same with ⟨after, unified⟩
  exact ⟨after, bind_eq_ok.mpr ⟨signature, looked, bind_eq_ok.mpr ⟨demands, unfolded,
    bind_eq_ok.mpr ⟨middle, unifyPositions_eq_ok.mpr
      ⟨by simpa [Signature.rename] using enough, passed⟩,
      bind_eq_ok.mpr ⟨targetType, targetTyped, unified⟩⟩⟩⟩⟩

namespace WellTyped

/-- The demands of every instruction of a valid body can be collected, whatever was
collected before. -/
theorem exists_instrDemands (wellTyped : body.WellTyped program) (inOrder : body.InOrder program)
    {label : Nat} {instr : Instr}
    (here : body.instr? label = some instr) (collected : Collected) :
    ∃ after, body.instrDemands program collected instr = .ok after := by
  have fitting := wellTyped.instrs label instr here
  cases instr with
  | assign target source next =>
      cases source with
      | use place =>
          rcases wellTyped.places target (inCode_of_target here rfl) with
            ⟨targetType, targetTyped⟩
          have shaped : body.hasShape targetType place = true := by
            simpa [fits, targetTyped, Except.toOption] using fitting
          rcases hasShape_iff.mp shaped with ⟨placeType, placeTyped, same⟩
          rcases collected.exists_unify same with ⟨after, unified⟩
          exact ⟨after, bind_eq_ok.mpr ⟨targetType, targetTyped,
            bind_eq_ok.mpr ⟨placeType, placeTyped, unified⟩⟩⟩
      | borrow mutability place => exact exists_borrowDemands collected fitting
      | make name arguments =>
          simp only [fits, Option.any_eq_true, Bool.and_eq_true] at fitting
          rcases fitting with ⟨decl, declared, fields, shaped⟩
          exact exists_makeDemands collected declared next
            ((inOrder.instrInOrder here).enough_fields declared) fields shaped
      | missing => simp [fits] at fitting
      | const | unit | unary | binary => exact ⟨collected, rfl⟩
  | call name arguments target next =>
      simp only [fits, Option.any_eq_true, Bool.and_eq_true] at fitting
      rcases fitting with ⟨signature, declared, parameters, shaped⟩
      exact exists_callDemands collected wellTyped.declarations declared next
        ((inOrder.instrInOrder here).enough_arguments declared) parameters shaped
  | deinit | goto | branch | ret => exact ⟨collected, rfl⟩

private theorem exists_localDemands (wellTyped : body.WellTyped program) {entry : Local}
    (listed : entry ∈ body.locals) (graph : OutlivesGraph) :
    ∃ after, localDemands program graph entry = .ok after := by
  rcases wellTyped.declarations.exists_impliedOutlives (wellTyped.locals entry listed) with
    ⟨demands, unfolded⟩
  exact ⟨_, bind_eq_ok.mpr ⟨demands, unfolded, rfl⟩⟩

/-- A well-typed body has an outlives graph. -/
theorem exists_outlivesGraph (wellTyped : body.WellTyped program) (valid : body.IsValid) :
    ∃ graph, body.outlivesGraph = .ok graph := by
  rcases valid.inOrder with ⟨known, inOrder⟩
  have sameProgram : known = program :=
    Option.some.inj (inOrder.declared.symm.trans wellTyped.declared)
  subst known
  have perLocal : ∀ graph, ∀ entry ∈ body.locals,
      ∃ after, localDemands program graph entry = .ok after :=
    fun graph entry listed => wellTyped.exists_localDemands listed graph
  rcases foldlM_ok_of_forall perLocal (body.generics.foldl OutlivesGraph.register .empty) with
    ⟨graph, ofLocals⟩
  have perStmt : ∀ collected, ∀ stmt ∈ body.code,
      ∃ after, body.stmtDemands program collected stmt = .ok after := by
    intro collected stmt inBody
    rcases List.mem_iff_getElem?.mp inBody with ⟨label, there⟩
    rcases inOrder.instrs label stmt there with ⟨instr, present, _⟩
    unfold stmtDemands
    rw [present]
    exact wellTyped.exists_instrDemands inOrder (instr?_eq_some.mpr ⟨stmt, there, present⟩)
      collected
  rcases foldlM_ok_of_forall perStmt { graph, supply := { last := body.highestNumber } } with
    ⟨last, ofCode⟩
  exact ⟨last.graph, bind_eq_ok.mpr ⟨last, bind_eq_ok.mpr ⟨program, wellTyped.requireProgram,
    bind_eq_ok.mpr ⟨graph, ofLocals, ofCode⟩⟩, rfl⟩⟩

end WellTyped
end Body
end BorrowChecker
