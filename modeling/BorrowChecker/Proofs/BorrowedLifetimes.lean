import BorrowChecker.Proofs.ImpliedDemands

namespace BorrowChecker

/-!
Lifetimes behind a borrow outlive it.

The type of a place is found step by step along its path, with the arguments of each
structure put into the type of the selected field.  The demands of a local are found by
unfolding its whole type.  Every step along a path is a step of the unfolding, so each
borrow that a place is reached through is met there, and what its demands say about the
target holds of everything further along the path: from a structure to its fields no
lifetimes are added, as long as declarations mention only their own parameters.
-/

def StructDecl.UsesOwnParameters (decl : StructDecl) : Prop :=
  ∀ field ∈ decl.fields, ∀ lifetime ∈ field.type.lifetimes, lifetime ∈ decl.parameters

/-- Unfolding a type adds no lifetimes to it. -/
theorem Program.Unfolds.mem_lifetimes {program : Program} {type found : Ty}
    (ownParameters : ∀ name decl, program.struct? name = some decl → decl.UsesOwnParameters)
    (unfolds : program.Unfolds type found) :
    ∀ lifetime ∈ found.lifetimes, lifetime ∈ type.lifetimes := by
  induction unfolds with
  | self => exact fun lifetime occurs => occurs
  | target _ inductionHypothesis =>
      exact fun lifetime occurs => inductionHypothesis lifetime (List.mem_cons_of_mem _ occurs)
  | field _ _ instantiated listed inductionHypothesis =>
      intro lifetime occurs
      apply inductionHypothesis
      rcases Program.lifetime_cases_of_fieldTypes instantiated listed occurs with
        isArgument | ⟨decl, declared, field, isField, mentioned, foreign⟩
      · exact isArgument
      · exact absurd (ownParameters _ decl declared field isField lifetime mentioned) foreign

namespace Body

variable {body : Body} {program : Program}

/-! ## Paths as unfoldings -/

/-- A step along a path is a step of the unfolding. -/
theorem unfolds_stepType (declared : body.program = some program) {place : Place} {type next : Ty}
    {step : Step} (stepped : body.stepType place type step = .ok next) :
    program.Unfolds type next := by
  cases step with
  | deref =>
      cases type with
      | borrow lifetime mutability target =>
          rw [← Except.ok.inj stepped]
          exact .target .self
      | unit | int | bool | struct | missing => simp [stepType] at stepped
  | field index =>
      cases type with
      | struct name arguments =>
          rcases bind_eq_ok.mp stepped with ⟨known, asked, stepped⟩
          rcases bind_eq_ok.mp stepped with ⟨fields, instantiated, selected⟩
          have sameProgram : known = program := by
            simpa [requireProgram, declared] using asked.symm
          subst known
          cases there : memberAt fields index with
          | none => simp [there] at selected
          | some part =>
              rw [there] at selected
              rw [← Except.ok.inj selected]
              exact .field .self trivial instantiated (mem_of_memberAt there)
      | unit | int | bool | borrow | missing => simp [stepType] at stepped

/-- The type of a place is met in the unfolding of the type of every place that it is
reached through. -/
theorem unfolds_of_isWithin (declared : body.program = some program) {place outer : Place}
    (inside : place.isWithin outer = true) {outerType type : Ty}
    (outerTyped : body.typeOf outer = .ok outerType) (typed : body.typeOf place = .ok type) :
    program.Unfolds outerType type := by
  induction place using Place.extend_induction generalizing type with
  | atLocal root =>
      rw [(Place.isWithin_ofLocal_iff root outer).mp inside] at outerTyped
      rw [Except.ok.inj (typed.symm.trans outerTyped)]
      exact .self
  | further place step inductionHypothesis =>
      rcases (Place.isWithin_extend_iff place outer step).mp inside with same | further
      · rw [same] at outerTyped
        rw [Except.ok.inj (typed.symm.trans outerTyped)]
        exact .self
      · rcases typeOf_extend typed with ⟨inner, innerTyped, stepped⟩
        exact (inductionHypothesis further innerTyped).trans (unfolds_stepType declared stepped)

/-- A pointer that a typed place is reached through is a borrow of the type behind it. -/
theorem typeOf_pointer {place pointer : Place} (inside : place.isWithin pointer.deref = true)
    {type : Ty} (typed : body.typeOf place = .ok type) :
    ∃ lifetime mutability target, body.typeOf pointer.deref = .ok target ∧
      body.typeOf pointer = .ok (.borrow lifetime mutability target) := by
  rcases exists_typeOf_of_mem_lineage ((Place.mem_lineage_iff _ _).mpr inside) ⟨type, typed⟩ with
    ⟨target, behind⟩
  rcases typeOf_extend behind with ⟨pointerType, pointerTyped, stepped⟩
  cases pointerType with
  | borrow lifetime mutability found =>
      rw [Except.ok.inj stepped] at pointerTyped
      exact ⟨lifetime, mutability, target, behind, pointerTyped⟩
  | unit | int | bool | struct | missing => simp [stepType] at stepped

/-! ## The demands of locals -/

/-- The graph of a body contains the implied demands of each of its locals. -/
theorem outlives_of_local {supply : FreshSupply} {collected : Collected}
    (declared : body.program = some program)
    (built : body.collectDemands supply = .ok collected) {entry : Local}
    (listed : entry ∈ body.locals) :
    ∃ demands, program.impliedOutlives entry.type = .ok demands ∧
      ∀ demand ∈ demands, demand.long ≠ demand.short →
        collected.graph.outlives demand.long demand.short = true := by
  rcases bind_eq_ok.mp built with ⟨known, asked, built⟩
  have sameProgram : known = program := by
    simpa [requireProgram, declared] using asked.symm
  subst known
  rcases bind_eq_ok.mp built with ⟨ofLocals, localsDone, codeDone⟩
  have recorded : ∃ demands, program.impliedOutlives entry.type = .ok demands ∧
      ∀ demand ∈ demands, demand.long ≠ demand.short →
        ofLocals.outlives demand.long demand.short = true := by
    refine foldlM_established (motive := fun graph : OutlivesGraph =>
      ∃ demands, program.impliedOutlives entry.type = .ok demands ∧
        ∀ demand ∈ demands, demand.long ≠ demand.short →
          graph.outlives demand.long demand.short = true) localsDone listed ?_ ?_
    · intro current after stepped
      rcases bind_eq_ok.mp stepped with ⟨demands, implied, result⟩
      refine ⟨demands, implied, fun demand isDemand different => ?_⟩
      rw [← Except.ok.inj result, OutlivesGraph.outlives_addAll]
      exact .inr ⟨different, isDemand⟩
    · intro current holds other _ after stepped
      rcases holds with ⟨demands, implied, met⟩
      exact ⟨demands, implied, fun demand isDemand different =>
        extension_localDemands stepped _ _ (met demand isDemand different)⟩
  have kept : ofLocals.Extension collected.graph := by
    refine foldlM_preserves (motive := fun current : Collected =>
      ofLocals.Extension current.graph) codeDone (.refl _) ?_
    intro current extension stmt _ after stepped
    exact extension.trans (extension_stmtDemands stepped)
  rcases recorded with ⟨demands, implied, met⟩
  exact ⟨demands, implied, fun demand isDemand different =>
    kept _ _ (met demand isDemand different)⟩

/-- The lifetimes in the type of a place all occur in the type of its local.  At every
dereference on its path, they outlive the borrow that is followed: each of them but
that of the borrow itself has an edge to it in the outlives graph, wherever the numbers
of inference lifetimes come from.  This needs field types that mention no lifetimes but
the parameters of their structure, and instances that do not print alike. -/
theorem lifetimes_outlive_pointers {supply : FreshSupply} {collected : Collected}
    (declared : body.program = some program)
    (ownParameters : ∀ name decl, program.struct? name = some decl → decl.UsesOwnParameters)
    (apart : ∀ entry ∈ body.locals, program.PrintsApart entry.type)
    (built : body.collectDemands supply = .ok collected) {place : Place} {type : Ty}
    (typed : body.typeOf place = .ok type) :
    ∃ rootType, body.localType place.root = .ok rootType ∧
      (∀ lifetime ∈ type.freeLifetimes, lifetime ∈ rootType.freeLifetimes) ∧
      ∀ pointer : Place, place.isWithin pointer.deref = true →
        ∃ short mutability target, body.typeOf pointer = .ok (.borrow short mutability target) ∧
          ∀ long ∈ type.freeLifetimes, long ≠ short →
            collected.graph.outlives long short = true := by
  rcases bind_eq_ok.mp typed with ⟨rootType, rooted, _⟩
  have atRoot : body.typeOf (.ofLocal place.root) = .ok rootType :=
    (typeOf_ofLocal body place.root).trans rooted
  have inRoot : ∀ inner : Place, place.isWithin inner = true →
      inner.isWithin (.ofLocal place.root) = true := by
    intro inner onTheWay
    exact (Place.isWithin_iff _ _).mpr
      ⟨((Place.isWithin_iff _ _).mp onTheWay).1.symm, List.nil_prefix⟩
  refine ⟨rootType, rooted, ?_, ?_⟩
  · intro lifetime occurs
    rw [Ty.mem_freeLifetimes] at occurs ⊢
    have unfolds := unfolds_of_isWithin declared (inRoot place place.isWithin_refl) atRoot typed
    exact unfolds.mem_lifetimes ownParameters lifetime occurs
  · intro pointer inside
    rcases typeOf_pointer inside typed with ⟨short, mutability, target, behind, pointerTyped⟩
    refine ⟨short, mutability, target, pointerTyped, fun long occurs different => ?_⟩
    rcases localType_eq_ok.mp rooted with ⟨entry, there, rfl⟩
    have listed := mem_of_memberAt there
    rcases outlives_of_local declared built listed with ⟨demands, implied, recorded⟩
    have inTarget : long ∈ target.freeLifetimes := by
      rw [Ty.mem_freeLifetimes] at occurs ⊢
      have unfolds := unfolds_of_isWithin declared inside behind typed
      exact unfolds.mem_lifetimes ownParameters long occurs
    have reached : place.isWithin pointer = true :=
      Place.isWithin_trans inside (pointer.extend_isWithin .deref)
    have borrowed := unfolds_of_isWithin declared (inRoot pointer reached) atRoot pointerTyped
    have isImplied : program.Implies entry.type { long, short } :=
      ⟨mutability, target, borrowed, inTarget⟩
    exact recorded _ ((apart entry listed).mem_of_implies implied isImplied) different

/-- A body that is given a node of a structure whose arguments change places from node
to node. -/
def linkedNodes : Body :=
  { name := "linked"
    program := some Program.swappingProgram
    locals := [
      { name := "out", kind := .result, type := .unit },
      { name := "x", kind := .parameter, type := .struct "Node" [.named "a", .named "b"] }]
    code := [
      { instr := some (.assign (.ofLocal 0) .unit 1) },
      { instr := some .ret }]
    generics := [.named "a", .named "b"] }

/-- Two nodes further the arguments stand as at the beginning.  The place there is
reached through borrows of both lifetimes, so either outlives the other. -/
theorem linkedNodes_lifetimes_outlive :
    ∃ collected, linkedNodes.collectDemands {} = .ok collected ∧
      collected.graph.outlives (.named "b") (.named "a") = true ∧
      collected.graph.outlives (.named "a") (.named "b") = true := by
  let next : Place := ((Place.ofLocal 1).field 0).deref
  let node (first second : String) : Ty := .struct "Node" [.named first, .named second]
  let types := [node "a" "b", node "b" "a", .borrow (.named "a") .shared (node "b" "a"),
    .borrow (.named "b") .shared (node "a" "b"), .borrow (.named "a") .shared .int,
    .borrow (.named "b") .shared .int, .int, .unit]
  have closed : Program.swappingProgram.isClosed types = true := by decide +kernel
  have apart : ∀ entry ∈ linkedNodes.locals, Program.swappingProgram.PrintsApart entry.type := by
    intro entry listed
    have isListed : entry.type ∈ types := by
      revert entry
      decide +kernel
    exact Program.printsApart_of_isClosed closed isListed (by decide +kernel)
  have everywhere : ∀ decl ∈ Program.swappingProgram.structs, decl.UsesOwnParameters := by
    unfold StructDecl.UsesOwnParameters
    decide
  have ownParameters : ∀ name decl, Program.swappingProgram.struct? name = some decl →
      decl.UsesOwnParameters :=
    fun _ decl declared => everywhere decl (List.mem_of_find?_eq_some declared)
  have typed : linkedNodes.typeOf (next.field 0).deref = .ok (node "a" "b") := rfl
  have evaluated : ∃ collected, linkedNodes.collectDemands {} = .ok collected := ⟨_, rfl⟩
  rcases evaluated with ⟨collected, built⟩
  rcases lifetimes_outlive_pointers rfl ownParameters apart built typed with ⟨_, _, _, outlive⟩
  rcases outlive ((Place.ofLocal 1).field 0) (by decide) with ⟨first, _, _, isFirst, overFirst⟩
  rcases outlive (next.field 0) (by decide) with ⟨second, _, _, isSecond, overSecond⟩
  cases isFirst
  cases isSecond
  exact ⟨collected, built, overFirst _ (by decide) (by decide),
    overSecond _ (by decide) (by decide)⟩

end Body
end BorrowChecker
