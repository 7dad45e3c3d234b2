import BorrowChecker.Proofs.TypeUnfolding

namespace BorrowChecker

/-!
The demands that a type implies.

Every demand that is listed for a type is justified by a borrow in its unfolding.  The
converse depends on how instances are recognised.  An instance that prints like one
opened before is taken for it and is not opened, so the demands behind it can be lost if
it is another one: two different lifetimes may print alike.  Nothing is lost behind
instances that print unlike all others, however deep inside another structure an
instance is met for the second time.
-/

namespace Program

variable {program : Program} {type : Ty}

/-- Some borrow that a type unfolds to demands that one lifetime outlives another: the
shorter one is the lifetime of the borrow, the longer one occurs behind it. -/
def ImpliesThrough (program : Program) (admitted : Instance → Prop) (type : Ty)
    (demand : Outlives) : Prop :=
  ∃ mutability target,
    program.UnfoldsThrough admitted type (.borrow demand.short mutability target) ∧
      demand.long ∈ target.freeLifetimes

/-- The same for the full unfolding. -/
def Implies (program : Program) : Ty → Outlives → Prop :=
  program.ImpliesThrough fun _ => True

/-- No other instance in the unfolding of a type prints like the given one. -/
def PrintsAlone (program : Program) (type : Ty) (inst : Instance) : Prop :=
  ∀ other : Instance, program.Unfolds type (.struct other.1 other.2) →
    Instance.text other = Instance.text inst → other = inst

/-- Different instances in the unfolding of a type print differently. -/
def PrintsApart (program : Program) (type : Ty) : Prop :=
  ∀ inst : Instance, program.Unfolds type (.struct inst.1 inst.2) →
    program.PrintsAlone type inst

/-- If all instances print differently, none is left out. -/
theorem PrintsApart.unfoldsThrough (apart : program.PrintsApart type) {found : Ty}
    (unfolds : program.Unfolds type found) :
    program.UnfoldsThrough (program.PrintsAlone type) type found := by
  induction unfolds with
  | self => exact .self
  | target _ inductionHypothesis => exact .target inductionHypothesis
  | field outer _ instantiated listed inductionHypothesis =>
      exact .field inductionHypothesis (apart (_, _) outer) instantiated listed

/-! ## What a traversal covers -/

/-- A type is covered by a traversal: its chain of borrows was recorded, and the
instance it ends in, or one that prints alike, was opened. -/
structure Covered (visited : List Instance) (opened : List String) (recorded : List Outlives)
    (type : Ty) : Prop where
  chain : ∀ demand ∈ type.chainDemands, demand ∈ recorded
  leaf : ∀ inst, type.leaf? = some inst →
    Instance.text inst ∈ opened ∨ ∃ other ∈ visited, Instance.text other = Instance.text inst

namespace Covered

variable {visited : List Instance} {opened : List String} {recorded : List Outlives}

theorem mono (covered : Covered visited opened recorded type) {more : List Outlives}
    (extended : ∀ demand ∈ recorded, demand ∈ more) : Covered visited opened more type :=
  ⟨fun demand listed => extended demand (covered.chain demand listed), covered.leaf⟩

/-- An instance opened before counts as opened by the traversal that opened it. -/
theorem opening {inst : Instance}
    (covered : Covered visited (Instance.text inst :: opened) recorded type) :
    Covered (inst :: visited) opened recorded type := by
  refine ⟨covered.chain, fun ended ends => ?_⟩
  rcases covered.leaf ended ends with before | ⟨other, listed, same⟩
  · rcases List.mem_cons.mp before with same | earlier
    · exact .inr ⟨inst, List.mem_cons_self, same.symm⟩
    · exact .inl earlier
  · exact .inr ⟨other, List.mem_cons_of_mem _ listed, same⟩

theorem borrow {lifetime : Lifetime} {mutability : Mutability} {target : Ty}
    (covered : Covered visited opened recorded target)
    (own : ∀ long ∈ target.freeLifetimes, { long, short := lifetime } ∈ recorded) :
    Covered visited opened recorded (.borrow lifetime mutability target) := by
  refine ⟨fun demand listed => ?_, covered.leaf⟩
  rcases List.mem_append.mp listed with here | behind
  · rcases List.mem_map.mp here with ⟨long, occurs, rfl⟩
    exact own long occurs
  · exact covered.chain demand behind

theorem target {lifetime : Lifetime} {mutability : Mutability} {target : Ty}
    (covered : Covered visited opened recorded (.borrow lifetime mutability target)) :
    Covered visited opened recorded target :=
  ⟨fun demand listed => covered.chain demand (List.mem_append_right _ listed), covered.leaf⟩

theorem plain (noBorrow : ∀ lifetime mutability target, type ≠ .borrow lifetime mutability target)
    (noStruct : ∀ name arguments, type ≠ .struct name arguments) :
    Covered visited opened recorded type := by
  cases type with
  | borrow => exact absurd rfl (noBorrow _ _ _)
  | struct => exact absurd rfl (noStruct _ _)
  | unit | int | bool | missing => exact ⟨nofun, nofun⟩

end Covered

/-- A traversal covers the pending types and the fields of all it opens. -/
theorem Traversal.covers {opened : List String} {pending : List Ty} {visited : List Instance}
    {outcome : Except Fault (List Outlives)}
    (run : program.Traversal opened pending visited outcome) {recorded : List Outlives}
    (succeeded : outcome = .ok recorded) :
    (∀ type ∈ pending, Covered visited opened recorded type) ∧
      ∀ inst ∈ visited, ∀ fields, program.fieldTypes inst.1 inst.2 = .ok fields →
        ∀ part ∈ fields, Covered visited opened recorded part := by
  induction run generalizing recorded with
  | finished => simp
  | plain noBorrow noStruct _ inductionHypothesis =>
      rcases inductionHypothesis succeeded with ⟨ofRest, ofVisited⟩
      exact ⟨List.forall_mem_cons.mpr ⟨.plain noBorrow noStruct, ofRest⟩, ofVisited⟩
  | @borrow _ lifetime _ target _ _ outcome _ inductionHypothesis =>
      cases outcome with
      | error cause => simp [Except.map] at succeeded
      | ok found =>
          have whole := Except.ok.inj succeeded
          have extended : ∀ demand ∈ found, demand ∈ recorded :=
            fun demand listed => whole ▸ List.mem_append_right _ listed
          rcases inductionHypothesis rfl with ⟨ofPending, ofVisited⟩
          rw [List.forall_mem_cons] at ofPending
          constructor
          · rw [List.forall_mem_cons]
            refine ⟨(ofPending.1.mono extended).borrow fun long occurs => ?_,
              fun type listed => (ofPending.2 type listed).mono extended⟩
            exact whole ▸ List.mem_append_left _ (List.mem_map.mpr ⟨long, occurs, rfl⟩)
          · intro inst listed fields instantiated part isField
            exact (ofVisited inst listed fields instantiated part isField).mono extended
  | known before _ inductionHypothesis =>
      rcases inductionHypothesis succeeded with ⟨ofRest, ofVisited⟩
      refine ⟨List.forall_mem_cons.mpr ⟨⟨nofun, fun inst ends => ?_⟩, ofRest⟩, ofVisited⟩
      rw [← Option.some.inj ends]
      exact .inl before
  | @opening _ name arguments _ fields _ _ _ instantiated _ inductionHypothesis =>
      rcases inductionHypothesis succeeded with ⟨ofPending, ofVisited⟩
      rw [List.forall_mem_append] at ofPending
      constructor
      · rw [List.forall_mem_cons]
        refine ⟨⟨nofun, fun inst ends => ?_⟩, fun type listed => (ofPending.2 type listed).opening⟩
        rw [← Option.some.inj ends]
        exact .inr ⟨(name, arguments), List.mem_cons_self, rfl⟩
      · rw [List.forall_mem_cons]
        constructor
        · intro again alsoInstantiated part isField
          rw [Except.ok.inj (alsoInstantiated.symm.trans instantiated)] at isField
          exact (ofPending.1 part isField).opening
        · intro inst listed again alsoInstantiated part isField
          exact (ofVisited inst listed again alsoInstantiated part isField).opening
  | fault => simp at succeeded

/-- Whatever a type unfolds to through instances that print alone is covered. -/
theorem Traversal.covered {visited : List Instance} {recorded : List Outlives}
    (run : program.Traversal [] [type] visited (.ok recorded)) {found : Ty}
    (unfolds : program.UnfoldsThrough (program.PrintsAlone type) type found) :
    Covered visited [] recorded found := by
  rcases run.covers rfl with ⟨ofPending, ofVisited⟩
  induction unfolds with
  | self => exact ofPending type List.mem_cons_self
  | target _ inductionHypothesis => exact inductionHypothesis.target
  | field _ alone instantiated listed inductionHypothesis =>
      rcases inductionHypothesis.leaf _ rfl with before | ⟨other, isVisited, same⟩
      · exact absurd before List.not_mem_nil
      · have unfolded := (run.within_unfolding.instances other isVisited).1
        rcases alone other unfolded same with rfl
        exact ofVisited _ isVisited _ instantiated _ listed

/-! ## Listed and justified demands -/

section Listed

variable {demands : List Outlives} {demand : Outlives}

theorem implies_of_mem (unfolded : program.impliedOutlives type = .ok demands)
    (listed : demand ∈ demands) : program.Implies type demand := by
  rcases traversal_impliedOutlives program type with ⟨visited, run⟩
  exact run.within_unfolding.demands demands unfolded demand listed

theorem mem_of_impliesThrough (unfolded : program.impliedOutlives type = .ok demands)
    (implied : program.ImpliesThrough (program.PrintsAlone type) type demand) :
    demand ∈ demands := by
  rcases traversal_impliedOutlives program type with ⟨visited, run⟩
  rw [unfolded] at run
  rcases implied with ⟨mutability, target, unfolds, occurs⟩
  have own : demand ∈ (Ty.borrow demand.short mutability target).chainDemands :=
    List.mem_append_left _ (List.mem_map.mpr ⟨demand.long, occurs, rfl⟩)
  exact (run.covered unfolds).chain demand own

theorem PrintsApart.mem_of_implies (apart : program.PrintsApart type)
    (unfolded : program.impliedOutlives type = .ok demands)
    (implied : program.Implies type demand) : demand ∈ demands := by
  rcases implied with ⟨mutability, target, unfolds, occurs⟩
  exact mem_of_impliesThrough unfolded
    ⟨mutability, target, apart.unfoldsThrough unfolds, occurs⟩

/-- The demands listed for a type are justified: each comes from a borrow in the
unfolding.  Those that are reached through instances that print alone are all listed.
So if no two instances in the unfolding print alike, the list is exact. -/
theorem implied_demands_exact (unfolded : program.impliedOutlives type = .ok demands) :
    (∀ demand ∈ demands, program.Implies type demand) ∧
      (∀ demand, program.ImpliesThrough (program.PrintsAlone type) type demand →
        demand ∈ demands) ∧
      (program.PrintsApart type →
        ∀ demand, demand ∈ demands ↔ program.Implies type demand) := by
  refine ⟨?_, ?_, ?_⟩
  · intro demand listed
    exact implies_of_mem unfolded listed
  · intro demand implied
    exact mem_of_impliesThrough unfolded implied
  · intro apart demand
    exact ⟨implies_of_mem unfolded, apart.mem_of_implies unfolded⟩

end Listed

/-! ## Finite unfoldings -/

/-- Whether a list of types contains all that its members unfold to. -/
def isClosed (program : Program) (types : List Ty) : Bool :=
  types.all fun
    | .borrow _ _ target => types.contains target
    | .struct name arguments =>
        (program.fieldTypes name arguments).toOption.all fun fields => fields.all types.contains
    | _ => true

private theorem mem_of_isClosed {types : List Ty} (closed : program.isClosed types = true)
    (listed : type ∈ types) {found : Ty} (unfolds : program.Unfolds type found) :
    found ∈ types := by
  rw [isClosed, List.all_eq_true] at closed
  induction unfolds with
  | self => exact listed
  | target _ inductionHypothesis => simpa using closed _ inductionHypothesis
  | field _ _ instantiated isField inductionHypothesis =>
      have fields := closed _ inductionHypothesis
      simp only [instantiated, Except.toOption, Option.all_some, List.all_eq_true,
        List.contains_iff_mem] at fields
      exact fields _ isField

/-- In a finite unfolding it can be tested whether instances print differently. -/
theorem printsApart_of_isClosed {types : List Ty} (closed : program.isClosed types = true)
    (listed : type ∈ types)
    (apart : ∀ first ∈ types.filterMap Ty.leaf?, ∀ second ∈ types.filterMap Ty.leaf?,
      Instance.text first = Instance.text second → first = second) :
    program.PrintsApart type := by
  have isLeaf : ∀ inst : Instance, program.Unfolds type (.struct inst.1 inst.2) →
      inst ∈ types.filterMap Ty.leaf? := by
    intro inst unfolds
    exact List.mem_filterMap.mpr ⟨_, mem_of_isClosed closed listed unfolds, rfl⟩
  intro inst unfolds other alsoUnfolds same
  exact apart other (isLeaf other alsoUnfolds) inst (isLeaf inst unfolds) same

/-- A structure that contains itself with exchanged arguments. -/
def swappingProgram : Program :=
  .ofDeclarations
    [{ name := "Node"
       parameters := [.named "a", .named "b"]
       fields := [
         { name := "next"
           type := .borrow (.named "a") .shared (.struct "Node" [.named "b", .named "a"]) },
         { name := "item", type := .borrow (.named "b") .shared .int }] }] []

/-- The unfolding of such a structure returns to it after two steps, and the demands in
both directions are listed. -/
theorem swappingProgram_implied_demands :
    ∃ demands, swappingProgram.impliedOutlives (.struct "Node" [.named "x", .named "y"]) =
        .ok demands ∧
      { long := .named "y", short := .named "x" } ∈ demands ∧
      { long := .named "x", short := .named "y" } ∈ demands ∧
      ∀ demand, demand ∈ demands ↔
        swappingProgram.Implies (.struct "Node" [.named "x", .named "y"]) demand := by
  let node (first second : String) : Ty := .struct "Node" [.named first, .named second]
  have evaluated : ∃ demands, swappingProgram.impliedOutlives (node "x" "y") = .ok demands ∧
      { long := .named "y", short := .named "x" } ∈ demands ∧
      { long := .named "x", short := .named "y" } ∈ demands := by
    refine ⟨_, rfl, ?_, ?_⟩ <;> decide +kernel
  rcases evaluated with ⟨demands, unfolded, forward, backward⟩
  let types := [node "x" "y", node "y" "x", .borrow (.named "x") .shared (node "y" "x"),
    .borrow (.named "y") .shared (node "x" "y"), .borrow (.named "x") .shared .int,
    .borrow (.named "y") .shared .int, .int]
  have closed : swappingProgram.isClosed types = true := by decide +kernel
  have apart : swappingProgram.PrintsApart (node "x" "y") :=
    printsApart_of_isClosed closed List.mem_cons_self (by decide +kernel)
  exact ⟨demands, unfolded, forward, backward, (implied_demands_exact unfolded).2.2 apart⟩

/-- A pair of cells, each of which holds a reference to a reference. -/
def cellProgram : Program :=
  .ofDeclarations
    [{ name := "Cell"
       parameters := [.named "p", .named "q"]
       fields := [
         { name := "item"
           type := .borrow (.named "p") .shared (.borrow (.named "q") .shared .int) }] },
     { name := "Pair"
       parameters := [.named "l", .named "r", .named "q"]
       fields := [
         { name := "left", type := .struct "Cell" [.named "l", .named "q"] },
         { name := "right", type := .struct "Cell" [.named "r", .named "q"] }] }] []

/-- The cells of a pair at two lifetimes of the same number print alike.  The right one is
taken for the left one, and its demand is lost. -/
theorem cellProgram_loses_demand :
    ∃ demands, cellProgram.impliedOutlives
        (.struct "Pair" [{ name := "a", number := 1 }, { name := "b", number := 1 }, .named "c"]) =
          .ok demands ∧
      cellProgram.Implies
        (.struct "Pair" [{ name := "a", number := 1 }, { name := "b", number := 1 }, .named "c"])
        { long := .named "c", short := { name := "b", number := 1 } } ∧
      { long := .named "c", short := { name := "b", number := 1 } } ∉ demands := by
  refine ⟨_, rfl, ?_, ?_⟩
  · have right : cellProgram.Unfolds
        (.struct "Pair" [{ name := "a", number := 1 }, { name := "b", number := 1 }, .named "c"])
        (.struct "Cell" [{ name := "b", number := 1 }, .named "c"]) :=
      .field .self trivial rfl (List.mem_cons_of_mem _ List.mem_cons_self)
    exact ⟨.shared, .borrow (.named "c") .shared .int,
      .field right trivial rfl List.mem_cons_self, by decide⟩
  · decide +kernel

end Program
end BorrowChecker
