import BorrowChecker.Proofs.TypedBodies
import Mathlib.Data.List.Sections
import Mathlib.Data.Set.Finite.Basic

namespace BorrowChecker

/-!
Unfolding a type comes to an end.

Opening a structure replaces it by the types of its fields, which may mention the same
structure again with other arguments.  No measure of the types themselves decreases.
What does is the number of instances that were not opened yet: renaming never makes a
lifetime that is neither an argument nor written in a declaration, so all instances
that can be opened are made of declared structures and of finitely many lifetimes.

The traversal is described without a bound, one rule for each way in which it goes on.
The bound that the library computes with is then shown to be large enough, so that it
never cuts a traversal short.
-/

/-! ## Instantiated fields -/

theorem Renaming.apply_binding_of_not_mem {parameters : List Lifetime} (arguments : List Lifetime)
    {lifetime : Lifetime} (unknown : lifetime ∉ parameters) :
    (Renaming.binding parameters arguments).apply lifetime = lifetime := by
  unfold Renaming.apply Renaming.binding Renaming.ofPairs
  have absent : (parameters.zip arguments).reverse.lookup lifetime = none := by
    rw [List.lookup_eq_none_iff]
    intro pair listed
    have inParameters := (List.of_mem_zip (List.mem_reverse.mp listed)).1
    rw [bne_iff_ne]
    intro same
    exact unknown (same ▸ inParameters)
  rw [absent]
  rfl

theorem Ty.leaf?_rename (change : Lifetime → Lifetime) (type : Ty) :
    (type.rename change).leaf? = type.leaf?.map fun inst => (inst.1, inst.2.map change) := by
  induction type with
  | borrow lifetime mutability target inductionHypothesis => exact inductionHypothesis
  | struct | unit | int | bool | missing => rfl

namespace StructDecl

variable {decl : StructDecl} {arguments : List Lifetime}

theorem fieldTypes_eq_ok {fields : List Ty} :
    decl.fieldTypes arguments = .ok fields ↔
      decl.parameters.length = arguments.length ∧
        fields = decl.fields.map fun field =>
          field.type.rename (Renaming.binding decl.parameters arguments).apply := by
  unfold fieldTypes
  split
  · rename_i sameLength
    simp [sameLength, eq_comm]
  · rename_i different
    simp [different]

theorem fieldTypes_eq_error {cause : Fault} :
    decl.fieldTypes arguments = .error cause ↔
      decl.parameters.length ≠ arguments.length ∧
        cause = .lifetimeArity decl.name decl.parameters arguments := by
  unfold fieldTypes
  split
  · rename_i sameLength
    simp [sameLength]
  · rename_i different
    simp [different, eq_comm]

end StructDecl

namespace Program

variable {program : Program} {name : String} {arguments : List Lifetime}

theorem fieldTypes_eq_ok {fields : List Ty} :
    program.fieldTypes name arguments = .ok fields ↔
      ∃ decl, program.struct? name = some decl ∧
        decl.parameters.length = arguments.length ∧
        fields = decl.fields.map fun field =>
          field.type.rename (Renaming.binding decl.parameters arguments).apply := by
  unfold fieldTypes
  simp only [bind_eq_ok, struct_eq_ok, StructDecl.fieldTypes_eq_ok]

/-- There are no fields if the structure is not declared or has another number of
parameters. -/
theorem fieldTypes_eq_error {cause : Fault} :
    program.fieldTypes name arguments = .error cause ↔
      (program.struct? name = none ∧ cause = .unknownStruct name) ∨
        ∃ decl, program.struct? name = some decl ∧
          decl.parameters.length ≠ arguments.length ∧
          cause = .lifetimeArity decl.name decl.parameters arguments := by
  unfold fieldTypes
  simp only [bind_eq_error, struct_eq_ok, StructDecl.fieldTypes_eq_error]
  unfold struct
  cases program.struct? name <;> simp [eq_comm]

/-- A lifetime of an instantiated field is an argument, or it is written in the
declaration without being a parameter. -/
theorem lifetime_cases_of_fieldTypes {fields : List Ty}
    (instantiated : program.fieldTypes name arguments = .ok fields) {part : Ty}
    (listed : part ∈ fields) {lifetime : Lifetime} (occurs : lifetime ∈ part.lifetimes) :
    lifetime ∈ arguments ∨ ∃ decl, program.struct? name = some decl ∧
      ∃ field ∈ decl.fields, lifetime ∈ field.type.lifetimes ∧ lifetime ∉ decl.parameters := by
  rcases fieldTypes_eq_ok.mp instantiated with ⟨decl, declared, sameLength, rfl⟩
  rcases List.mem_map.mp listed with ⟨field, isField, rfl⟩
  rw [Ty.lifetimes_rename] at occurs
  rcases List.mem_map.mp occurs with ⟨written, mentioned, rfl⟩
  by_cases isParameter : written ∈ decl.parameters
  · exact .inl (Renaming.apply_binding_mem sameLength isParameter)
  · rw [Renaming.apply_binding_of_not_mem arguments isParameter]
    exact .inr ⟨decl, declared, field, isField, mentioned, isParameter⟩

/-! ## What a type unfolds to -/

/-- The types that a type unfolds to if nothing but the admitted instances is opened:
the type itself, the target of each borrow and the fields of each admitted structure. -/
inductive UnfoldsThrough (program : Program) (admitted : Instance → Prop) (type : Ty) :
    Ty → Prop where
  | self : UnfoldsThrough program admitted type type
  | target {lifetime : Lifetime} {mutability : Mutability} {target : Ty}
      (outer : UnfoldsThrough program admitted type (.borrow lifetime mutability target)) :
      UnfoldsThrough program admitted type target
  | field {name : String} {arguments : List Lifetime} {fields : List Ty} {part : Ty}
      (outer : UnfoldsThrough program admitted type (.struct name arguments))
      (opens : admitted (name, arguments))
      (instantiated : program.fieldTypes name arguments = .ok fields) (listed : part ∈ fields) :
      UnfoldsThrough program admitted type part

/-- The full unfolding, in which every instance is opened. -/
def Unfolds (program : Program) : Ty → Ty → Prop := program.UnfoldsThrough fun _ => True

namespace UnfoldsThrough

variable {admitted : Instance → Prop} {type found : Ty}

theorem trans {last : Ty} (front : program.UnfoldsThrough admitted type found)
    (back : program.UnfoldsThrough admitted found last) :
    program.UnfoldsThrough admitted type last := by
  induction back with
  | self => exact front
  | target _ inductionHypothesis => exact .target inductionHypothesis
  | field _ opens instantiated listed inductionHypothesis =>
      exact .field inductionHypothesis opens instantiated listed

/-- A chain of borrows leads to the structure at its end. -/
theorem leaf (unfolds : program.UnfoldsThrough admitted type found) {inst : Instance}
    (ends : found.leaf? = some inst) :
    program.UnfoldsThrough admitted type (.struct inst.1 inst.2) := by
  induction found with
  | borrow lifetime mutability target inductionHypothesis =>
      exact inductionHypothesis (.target unfolds) ends
  | struct name arguments =>
      rw [← Option.some.inj ends]
      exact unfolds
  | unit | int | bool | missing => simp [Ty.leaf?] at ends

end UnfoldsThrough

/-! ## Only finitely many instances -/

private theorem mem_lifetimePool_of_declared (type : Ty) {decl : StructDecl}
    (declared : program.struct? name = some decl) {field : FieldDecl}
    (isField : field ∈ decl.fields) {lifetime : Lifetime}
    (mentioned : lifetime ∈ field.type.lifetimes) :
    lifetime ∈ program.lifetimePool type := by
  apply List.mem_append_right
  refine List.mem_flatMap.mpr ⟨decl, List.mem_of_find?_eq_some declared, ?_⟩
  exact List.mem_flatMap.mpr ⟨field, isField, mentioned⟩

/-- Unfolding a type mentions no lifetimes but those of the type and those written in
declarations. -/
theorem Unfolds.mem_lifetimePool {type found : Ty} (unfolds : program.Unfolds type found) :
    ∀ lifetime ∈ found.lifetimes, lifetime ∈ program.lifetimePool type := by
  induction unfolds with
  | self => exact fun lifetime occurs => List.mem_append_left _ occurs
  | target _ inductionHypothesis =>
      exact fun lifetime occurs => inductionHypothesis lifetime (List.mem_cons_of_mem _ occurs)
  | field _ _ instantiated listed inductionHypothesis =>
      intro lifetime occurs
      rcases lifetime_cases_of_fieldTypes instantiated listed occurs with isArgument | isWritten
      · exact inductionHypothesis lifetime isArgument
      · rcases isWritten with ⟨decl, declared, field, isField, mentioned, _⟩
        exact mem_lifetimePool_of_declared type declared isField mentioned

/-- The lists of a given length over a pool. -/
theorem mem_sections_replicate {pool : List Lifetime} {count : Nat} :
    arguments ∈ (List.replicate count pool).sections ↔
      arguments.length = count ∧ ∀ lifetime ∈ arguments, lifetime ∈ pool := by
  rw [List.mem_sections]
  induction count generalizing arguments with
  | zero => cases arguments <;> simp
  | succ count inductionHypothesis =>
      cases arguments with
      | nil => simp
      | cons first rest =>
          rw [List.replicate_succ, List.forall₂_cons, inductionHypothesis, List.forall_mem_cons,
            List.length_cons, Nat.add_right_cancel_iff]
          exact and_left_comm

private theorem length_sections_replicate (pool : List Lifetime) (count : Nat) :
    (List.replicate count pool).sections.length = Nat.pow pool.length count := by
  induction count with
  | zero => rfl
  | succ count inductionHypothesis =>
      simp [List.replicate_succ, List.sections, List.length_flatMap, inductionHypothesis,
        Nat.pow_succ]

/-- All instances of declared structures with arguments from a pool. -/
def instancesOver (program : Program) (pool : List Lifetime) : List Instance :=
  program.structs.flatMap fun decl =>
    (List.replicate decl.parameters.length pool).sections.map (Prod.mk decl.name)

private theorem length_instancesOver (program : Program) (pool : List Lifetime) :
    (program.instancesOver pool).length = program.instanceBound pool.length := by
  unfold instancesOver instanceBound
  induction program.structs with
  | nil => rfl
  | cons decl rest inductionHypothesis =>
      rw [List.flatMap_cons, List.length_append, inductionHypothesis, List.length_map,
        length_sections_replicate, List.foldr_cons]

/-- An instance with fields is one of them. -/
theorem mem_instancesOver {pool : List Lifetime} {fields : List Ty}
    (instantiated : program.fieldTypes name arguments = .ok fields)
    (inPool : ∀ lifetime ∈ arguments, lifetime ∈ pool) :
    (name, arguments) ∈ program.instancesOver pool := by
  rcases fieldTypes_eq_ok.mp instantiated with ⟨decl, declared, sameLength, _⟩
  have sameName : decl.name = name := by simpa using List.find?_some declared
  refine List.mem_flatMap.mpr ⟨decl, List.mem_of_find?_eq_some declared, ?_⟩
  rw [← sameName]
  exact List.mem_map_of_mem (mem_sections_replicate.mpr ⟨sameLength.symm, inPool⟩)

/-- Instances that print differently are no more than there are. -/
theorem length_le_instanceBound {pool : List Lifetime} {instances : List Instance}
    (distinct : (instances.map Instance.text).Nodup)
    (known : ∀ inst ∈ instances, inst ∈ program.instancesOver pool) :
    instances.length ≤ program.instanceBound pool.length := by
  rw [← length_instancesOver]
  exact (List.subperm_of_subset (List.Nodup.of_map _ distinct) known).length_le

/-- Instances that may end a type of the unfolding, opened or not: a structure that is
written in the type or in a declaration, with arguments from the pool. -/
def instancesWithin (program : Program) (type : Ty) : List Instance :=
  ((type :: program.structs.flatMap fun decl => decl.fields.map FieldDecl.type).filterMap
    Ty.leaf?).flatMap fun written =>
      (List.replicate written.2.length (program.lifetimePool type)).sections.map
        (Prod.mk written.1)

/-- Whatever structure ends a type of the unfolding is written somewhere with as many
arguments. -/
theorem Unfolds.exists_written {type found : Ty} (unfolds : program.Unfolds type found)
    {inst : Instance} (ends : found.leaf? = some inst) :
    ∃ source ∈ type :: program.structs.flatMap fun decl => decl.fields.map FieldDecl.type,
      ∃ written, source.leaf? = some written ∧ written.1 = inst.1 ∧
        written.2.length = inst.2.length := by
  induction unfolds with
  | self => exact ⟨type, List.mem_cons_self, inst, ends, rfl, rfl⟩
  | target _ inductionHypothesis => exact inductionHypothesis ends
  | field _ _ instantiated listed _ =>
      rcases fieldTypes_eq_ok.mp instantiated with ⟨decl, declared, _, rfl⟩
      rcases List.mem_map.mp listed with ⟨field, isField, rfl⟩
      rw [Ty.leaf?_rename, Option.map_eq_some_iff] at ends
      rcases ends with ⟨written, here, rfl⟩
      refine ⟨field.type, List.mem_cons_of_mem _ ?_, written, here, rfl, by simp⟩
      exact List.mem_flatMap.mpr ⟨decl, List.mem_of_find?_eq_some declared,
        List.mem_map_of_mem isField⟩

theorem Unfolds.mem_instancesWithin {type : Ty} {inst : Instance}
    (unfolds : program.Unfolds type (.struct inst.1 inst.2)) :
    inst ∈ program.instancesWithin type := by
  rcases unfolds.exists_written rfl with ⟨source, listed, written, ends, sameName, sameLength⟩
  refine List.mem_flatMap.mpr ⟨written, List.mem_filterMap.mpr ⟨source, listed, ends⟩, ?_⟩
  refine List.mem_map.mpr ⟨inst.2, ?_, Prod.ext sameName rfl⟩
  exact mem_sections_replicate.mpr ⟨sameLength.symm, unfolds.mem_lifetimePool⟩

/-! ## The traversal -/

/-- The traversal of pending types from left to right.  It has opened instances with
the given printed forms before; it opens the listed ones in this order and ends with
the outcome.  Nothing bounds how many instances it opens. -/
inductive Traversal (program : Program) :
    List String → List Ty → List Instance → Except Fault (List Outlives) → Prop where
  | finished {opened : List String} : Traversal program opened [] [] (.ok [])
  | plain {opened : List String} {type : Ty} {rest : List Ty} {visited : List Instance}
      {outcome : Except Fault (List Outlives)}
      (noBorrow : ∀ lifetime mutability target, type ≠ .borrow lifetime mutability target)
      (noStruct : ∀ name arguments, type ≠ .struct name arguments)
      (further : Traversal program opened rest visited outcome) :
      Traversal program opened (type :: rest) visited outcome
  | borrow {opened : List String} {lifetime : Lifetime} {mutability : Mutability} {target : Ty}
      {rest : List Ty} {visited : List Instance} {outcome : Except Fault (List Outlives)}
      (further : Traversal program opened (target :: rest) visited outcome) :
      Traversal program opened (.borrow lifetime mutability target :: rest) visited
        (outcome.map ((target.freeLifetimes.map fun inner =>
          { long := inner, short := lifetime }) ++ ·))
  | known {opened : List String} {name : String} {arguments : List Lifetime} {rest : List Ty}
      {visited : List Instance} {outcome : Except Fault (List Outlives)}
      (before : Instance.text (name, arguments) ∈ opened)
      (further : Traversal program opened rest visited outcome) :
      Traversal program opened (.struct name arguments :: rest) visited outcome
  | opening {opened : List String} {name : String} {arguments : List Lifetime}
      {rest fields : List Ty} {visited : List Instance} {outcome : Except Fault (List Outlives)}
      (new : Instance.text (name, arguments) ∉ opened)
      (instantiated : program.fieldTypes name arguments = .ok fields)
      (further : Traversal program (Instance.text (name, arguments) :: opened) (fields ++ rest)
        visited outcome) :
      Traversal program opened (.struct name arguments :: rest) ((name, arguments) :: visited)
        outcome
  | fault {opened : List String} {name : String} {arguments : List Lifetime} {rest : List Ty}
      {cause : Fault} (new : Instance.text (name, arguments) ∉ opened)
      (failed : program.fieldTypes name arguments = .error cause) :
      Traversal program opened (.struct name arguments :: rest) [] (.error cause)

namespace Traversal

variable {opened : List String} {pending rest : List Ty} {visited : List Instance}
  {outcome : Except Fault (List Outlives)}

/-- The traversal is determined by where it starts. -/
theorem unique (run : program.Traversal opened pending visited outcome) {others : List Instance}
    {result : Except Fault (List Outlives)}
    (again : program.Traversal opened pending others result) :
    visited = others ∧ outcome = result := by
  induction run generalizing others result with
  | finished =>
      cases again
      exact ⟨rfl, rfl⟩
  | plain noBorrow noStruct _ inductionHypothesis =>
      cases again with
      | plain _ _ further => exact inductionHypothesis further
      | borrow => exact absurd rfl (noBorrow _ _ _)
      | known | opening | fault => exact absurd rfl (noStruct _ _)
  | borrow _ inductionHypothesis =>
      cases again with
      | plain noBorrow => exact absurd rfl (noBorrow _ _ _)
      | borrow further =>
          rcases inductionHypothesis further with ⟨rfl, rfl⟩
          exact ⟨rfl, rfl⟩
  | known before _ inductionHypothesis =>
      cases again with
      | plain _ noStruct => exact absurd rfl (noStruct _ _)
      | known _ further => exact inductionHypothesis further
      | opening new | fault new => exact absurd before new
  | opening new instantiated _ inductionHypothesis =>
      cases again with
      | plain _ noStruct => exact absurd rfl (noStruct _ _)
      | known before => exact absurd before new
      | opening _ again further =>
          rcases Except.ok.inj (again.symm.trans instantiated) with rfl
          rcases inductionHypothesis further with ⟨rfl, rfl⟩
          exact ⟨rfl, rfl⟩
      | fault _ failed => simp [instantiated] at failed
  | fault new failed =>
      cases again with
      | plain _ noStruct => exact absurd rfl (noStruct _ _)
      | known before => exact absurd before new
      | opening _ instantiated => simp [failed] at instantiated
      | fault _ alsoFailed =>
          rcases Except.error.inj (alsoFailed.symm.trans failed) with rfl
          exact ⟨rfl, rfl⟩

/-- No two of the opened instances print alike, and none prints like an earlier one. -/
theorem distinct (run : program.Traversal opened pending visited outcome) :
    (visited.map Instance.text).Nodup ∧ ∀ inst ∈ visited, Instance.text inst ∉ opened := by
  induction run with
  | finished | fault => simp
  | plain _ _ _ inductionHypothesis | borrow _ inductionHypothesis
  | known _ _ inductionHypothesis => exact inductionHypothesis
  | opening new _ _ inductionHypothesis =>
      rcases inductionHypothesis with ⟨apart, later⟩
      constructor
      · rw [List.map_cons, List.nodup_cons]
        refine ⟨fun repeated => ?_, apart⟩
        rcases List.mem_map.mp repeated with ⟨inst, listed, same⟩
        exact later inst listed (same ▸ List.mem_cons_self)
      · rw [List.forall_mem_cons]
        exact ⟨new, fun inst listed before => later inst listed (List.mem_cons_of_mem _ before)⟩

/-- What a traversal comes across has a property that the pending types have and that
passes to targets and fields: the instances it opens, the borrows whose demands it
lists, and the instance that it fails at. -/
structure Within (program : Program) (motive : Ty → Prop) (visited : List Instance)
    (outcome : Except Fault (List Outlives)) : Prop where
  instances : ∀ inst ∈ visited, motive (.struct inst.1 inst.2) ∧
    ∃ fields, program.fieldTypes inst.1 inst.2 = .ok fields
  demands : ∀ demands, outcome = .ok demands → ∀ demand ∈ demands, ∃ mutability target,
    motive (.borrow demand.short mutability target) ∧ demand.long ∈ target.freeLifetimes
  fault : ∀ cause, outcome = .error cause → ∃ inst : Instance,
    motive (.struct inst.1 inst.2) ∧ program.fieldTypes inst.1 inst.2 = .error cause

theorem within {motive : Ty → Prop}
    (toTarget : ∀ lifetime mutability target, motive (.borrow lifetime mutability target) →
      motive target)
    (toField : ∀ name arguments fields part, motive (.struct name arguments) →
      program.fieldTypes name arguments = .ok fields → part ∈ fields → motive part)
    (run : program.Traversal opened pending visited outcome)
    (start : ∀ type ∈ pending, motive type) : Within program motive visited outcome := by
  induction run with
  | finished => exact ⟨by simp, by simp, by simp⟩
  | plain _ _ _ inductionHypothesis | known _ _ inductionHypothesis =>
      exact inductionHypothesis (List.forall_mem_cons.mp start).2
  | @borrow _ lifetime mutability target _ _ outcome _ inductionHypothesis =>
      rcases List.forall_mem_cons.mp start with ⟨here, later⟩
      have inner := inductionHypothesis
        (List.forall_mem_cons.mpr ⟨toTarget lifetime mutability target here, later⟩)
      cases outcome with
      | error cause => exact ⟨inner.instances, nofun, inner.fault⟩
      | ok found =>
          refine ⟨inner.instances, fun demands isOutcome demand listed => ?_, nofun⟩
          rw [← Except.ok.inj isOutcome] at listed
          rcases List.mem_append.mp listed with own | further
          · rcases List.mem_map.mp own with ⟨long, behind, rfl⟩
            exact ⟨mutability, target, here, behind⟩
          · exact inner.demands found rfl demand further
  | opening _ instantiated _ inductionHypothesis =>
      rcases List.forall_mem_cons.mp start with ⟨here, later⟩
      have inner := inductionHypothesis (List.forall_mem_append.mpr
        ⟨fun part listed => toField _ _ _ part here instantiated listed, later⟩)
      exact ⟨List.forall_mem_cons.mpr ⟨⟨here, _, instantiated⟩, inner.instances⟩, inner.demands,
        inner.fault⟩
  | @fault _ name arguments _ cause _ failed =>
      have here := (List.forall_mem_cons.mp start).1
      refine ⟨by simp, nofun, fun reason isOutcome => ?_⟩
      rw [← Except.error.inj isOutcome]
      exact ⟨(name, arguments), here, failed⟩

/-- What the traversal of a type comes across belongs to its unfolding. -/
theorem within_unfolding {type : Ty} (run : program.Traversal opened [type] visited outcome) :
    Within program (program.Unfolds type) visited outcome := by
  refine within ?_ ?_ run ?_
  · intro lifetime mutability target outer
    exact .target outer
  · intro name arguments fields part outer instantiated listed
    exact .field outer trivial instantiated listed
  · rw [List.forall_mem_singleton]
    exact .self

/-! ## The traversal of a pending type -/

theorem map_append_nil (outcome : Except Fault (List Outlives)) :
    outcome.map ([] ++ ·) = outcome := by
  cases outcome <;> rfl

theorem map_append_append (front back : List Outlives) (outcome : Except Fault (List Outlives)) :
    outcome.map (front ++ back ++ ·) = (outcome.map (back ++ ·)).map (front ++ ·) := by
  cases outcome with
  | error cause => rfl
  | ok found => exact congrArg Except.ok (List.append_assoc front back found)

/-- A type that ends in an instance makes the demands of its chain of borrows; then the
instance is pending. -/
theorem chain {type : Ty} {inst : Instance} (ends : type.leaf? = some inst)
    (further : program.Traversal opened (.struct inst.1 inst.2 :: rest) visited outcome) :
    program.Traversal opened (type :: rest) visited (outcome.map (type.chainDemands ++ ·)) := by
  induction type with
  | borrow lifetime mutability target inductionHypothesis =>
      rw [Ty.chainDemands, map_append_append]
      exact .borrow (inductionHypothesis ends)
  | struct name arguments =>
      rw [← Option.some.inj ends] at further
      exact (map_append_nil outcome).symm ▸ further
  | unit | int | bool | missing => simp [Ty.leaf?] at ends

/-- A type that ends in no new instance makes the demands of its chain of borrows, and
the traversal goes on behind it. -/
theorem skip {type : Ty}
    (before : ∀ inst, type.leaf? = some inst → Instance.text inst ∈ opened)
    (further : program.Traversal opened rest visited outcome) :
    program.Traversal opened (type :: rest) visited (outcome.map (type.chainDemands ++ ·)) := by
  induction type with
  | borrow lifetime mutability target inductionHypothesis =>
      rw [Ty.chainDemands, map_append_append]
      exact .borrow (inductionHypothesis before)
  | struct name arguments =>
      exact (map_append_nil outcome).symm ▸ .known (before _ rfl) further
  | unit | int | bool | missing =>
      exact (map_append_nil outcome).symm ▸ .plain nofun nofun further

/-- The search for the next instance goes the first part of the way: to the end if
there is none, otherwise to a new instance. -/
theorem of_nextInstance (program : Program) (opened : List String) (pending : List Ty) :
    match nextInstance opened pending with
    | (demands, none) => program.Traversal opened pending [] (.ok demands)
    | (demands, some (inst, rest)) => Instance.text inst ∉ opened ∧
        ∀ visited outcome,
          program.Traversal opened (.struct inst.1 inst.2 :: rest) visited outcome →
          program.Traversal opened pending visited (outcome.map (demands ++ ·)) := by
  induction pending with
  | nil => exact .finished
  | cons type others inductionHypothesis =>
      by_cases new : ∃ inst, type.leaf? = some inst ∧ Instance.text inst ∉ opened
      · rcases new with ⟨inst, ends, isNew⟩
        have stops : nextInstance opened (type :: others) =
            (type.chainDemands, some (inst, others)) := by
          simp [nextInstance, ends, isNew]
        rw [stops]
        exact ⟨isNew, fun visited outcome further => chain ends further⟩
      · have before : ∀ inst, type.leaf? = some inst → Instance.text inst ∈ opened :=
          fun inst ends => Decidable.not_not.mp fun isNew => new ⟨inst, ends, isNew⟩
        have passes : nextInstance opened (type :: others) =
            (type.chainDemands ++ (nextInstance opened others).1,
              (nextInstance opened others).2) := by
          rw [nextInstance]
          cases ends : type.leaf? with
          | none => rfl
          | some inst => simp [before inst ends]
        rw [passes]
        rcases found : nextInstance opened others with ⟨demands, _ | ⟨inst, rest⟩⟩
        · rw [found] at inductionHypothesis
          exact skip before inductionHypothesis
        · rw [found] at inductionHypothesis
          refine ⟨inductionHypothesis.1, fun visited outcome further => ?_⟩
          rw [map_append_append]
          exact skip before (inductionHypothesis.2 visited outcome further)

end Traversal

/-! ## The bound suffices -/

section Unfolding

variable {opened : List String} {pending rest fields : List Ty} {demands : List Outlives}
  {inst : Instance}

private theorem unfoldDemands_of_none (budget : Nat)
    (found : nextInstance opened pending = (demands, none)) :
    program.unfoldDemands budget opened pending = .ok demands := by
  rw [unfoldDemands, found]

private theorem unfoldDemands_of_fault (budget : Nat)
    (found : nextInstance opened pending = (demands, some (inst, rest))) {cause : Fault}
    (failed : program.fieldTypes inst.1 inst.2 = .error cause) :
    program.unfoldDemands budget opened pending = .error cause := by
  rw [unfoldDemands, found]
  simp [failed, bind, Except.bind]

private theorem unfoldDemands_of_fields (budget : Nat)
    (found : nextInstance opened pending = (demands, some (inst, rest)))
    (instantiated : program.fieldTypes inst.1 inst.2 = .ok fields) :
    program.unfoldDemands (budget + 1) opened pending =
      (program.unfoldDemands budget (Instance.text inst :: opened) (fields ++ rest)).map
        (demands ++ ·) := by
  rw [unfoldDemands, found]
  simp only [instantiated, bind, Except.bind]
  cases program.unfoldDemands budget (Instance.text inst :: opened) (fields ++ rest) <;> rfl

end Unfolding

/-- With room for as many instances as there are, unfolding pending types is their
traversal.  The invariant is that the opened instances print differently and that all
types belong to the unfolding of one type. -/
theorem exists_traversal (type : Ty) (budget : Nat) {done : List Instance} {pending : List Ty}
    (distinct : (done.map Instance.text).Nodup)
    (known : ∀ inst ∈ done, inst ∈ program.instancesOver (program.lifetimePool type))
    (unfolded : ∀ found ∈ pending, program.Unfolds type found)
    (room : program.instanceBound (program.lifetimePool type).length ≤ done.length + budget) :
    ∃ visited, program.Traversal (done.map Instance.text) pending visited
      (program.unfoldDemands budget (done.map Instance.text) pending) := by
  have step := Traversal.of_nextInstance program (done.map Instance.text) pending
  rcases found : nextInstance (done.map Instance.text) pending with ⟨demands, _ | ⟨inst, rest⟩⟩
  · rw [found] at step
    rw [unfoldDemands_of_none budget found]
    exact ⟨[], step⟩
  · rw [found] at step
    rcases step with ⟨new, goesOn⟩
    cases instantiated : program.fieldTypes inst.1 inst.2 with
    | error cause =>
        rw [unfoldDemands_of_fault budget found instantiated]
        exact ⟨[], goesOn [] _ (.fault new instantiated)⟩
    | ok fields =>
        rcases exists_of_nextInstance (congrArg Prod.snd found) with ⟨⟨source, listed, ends⟩, kept⟩
        have isUnfolded := (unfolded source listed).leaf ends
        have distinctNow : ((inst :: done).map Instance.text).Nodup :=
          List.nodup_cons.mpr ⟨new, distinct⟩
        have knownNow : ∀ other ∈ inst :: done,
            other ∈ program.instancesOver (program.lifetimePool type) :=
          List.forall_mem_cons.mpr
            ⟨mem_instancesOver instantiated (Unfolds.mem_lifetimePool isUnfolded), known⟩
        have bounded := length_le_instanceBound distinctNow knownNow
        rw [List.length_cons] at bounded
        cases budget with
        | zero => omega
        | succ budget =>
            have unfoldedNow : ∀ found ∈ fields ++ rest, program.Unfolds type found :=
              List.forall_mem_append.mpr
                ⟨fun part isField => .field isUnfolded trivial instantiated isField,
                  fun other isLater => unfolded other (kept other isLater)⟩
            rcases exists_traversal type budget distinctNow knownNow unfoldedNow
              (by rw [List.length_cons]; omega) with ⟨visited, run⟩
            rw [unfoldDemands_of_fields budget found instantiated]
            exact ⟨inst :: visited, goesOn _ _ (.opening new instantiated run)⟩
termination_by budget

/-- The implied demands of a type are the outcome of its traversal. -/
theorem traversal_impliedOutlives (program : Program) (type : Ty) :
    ∃ visited, program.Traversal [] [type] visited (program.impliedOutlives type) := by
  have none : (List.map Instance.text []).Nodup := List.nodup_nil
  have start : ∀ found ∈ [type], program.Unfolds type found :=
    List.forall_mem_singleton.mpr .self
  exact exists_traversal type _ none (by simp) start (by simp)

/-- Every type of every program can be unfolded to the end.  Its unfolding contains only
finitely many instances of structures, however these contain each other.  The traversal,
which is not bounded in itself, opens no two instances that print alike, and so no more
than can be formed from the lifetimes at hand.  It has one outcome only, the one that
is computed: a list of demands, or the fault of an instance in the unfolding whose
structure is not declared or has another number of parameters. -/
theorem unfolding_terminates (program : Program) (type : Ty) :
    {inst : Instance | program.Unfolds type (.struct inst.1 inst.2)}.Finite ∧
      (∃ visited, program.Traversal [] [type] visited (program.impliedOutlives type) ∧
        (visited.map Instance.text).Nodup ∧
        (∀ inst ∈ visited, program.Unfolds type (.struct inst.1 inst.2)) ∧
        visited.length ≤ program.instanceBound (program.lifetimePool type).length ∧
        ∀ others outcome, program.Traversal [] [type] others outcome →
          others = visited ∧ outcome = program.impliedOutlives type) ∧
      ((∃ demands, program.impliedOutlives type = .ok demands) ∨
        ∃ name arguments, program.Unfolds type (.struct name arguments) ∧
          ((program.struct? name = none ∧
              program.impliedOutlives type = .error (.unknownStruct name)) ∨
            ∃ decl, program.struct? name = some decl ∧
              decl.parameters.length ≠ arguments.length ∧
              program.impliedOutlives type =
                .error (.lifetimeArity decl.name decl.parameters arguments))) := by
  rcases traversal_impliedOutlives program type with ⟨visited, run⟩
  have inside := run.within_unfolding
  have distinct := run.distinct.1
  have bounded := length_le_instanceBound distinct fun inst listed => by
    rcases inside.instances inst listed with ⟨unfolds, fields, instantiated⟩
    exact mem_instancesOver instantiated unfolds.mem_lifetimePool
  refine ⟨?_, ⟨visited, run, distinct, fun inst listed => (inside.instances inst listed).1, bounded,
    fun others outcome again => again.unique run⟩, ?_⟩
  · exact (List.finite_toSet (program.instancesWithin type)).subset
      fun inst unfolds => Unfolds.mem_instancesWithin unfolds
  · cases unfolded : program.impliedOutlives type with
    | ok demands => exact .inl ⟨demands, rfl⟩
    | error cause =>
        rcases inside.fault cause unfolded with ⟨inst, unfolds, failed⟩
        refine .inr ⟨inst.1, inst.2, unfolds, ?_⟩
        rcases fieldTypes_eq_error.mp failed with ⟨unknown, rfl⟩ | ⟨decl, declared, different, rfl⟩
        · exact .inl ⟨unknown, rfl⟩
        · exact .inr ⟨decl, declared, different, rfl⟩

end Program
end BorrowChecker
