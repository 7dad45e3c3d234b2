import BorrowChecker.Proofs.BorrowedLifetimes

namespace BorrowChecker

/-!
Laws of renaming.

A renaming is applied to all lifetimes of a type at once, so it may exchange lifetimes,
lead several to one, or lead a lifetime to one that it renames itself.  Renaming twice
is renaming once by the renamings in sequence, which is a finite renaming again.  Two
lifetimes that become one are listed once, where the first of them stood.

Instantiating a declaration is a renaming too: it leads the parameters to the arguments.
If the fields mention nothing but parameters, nothing else can be renamed afterwards than
the arguments, and it is the same to rename these first.
-/

namespace Renaming

/-- Changing what lifetimes are led to changes what is found. -/
theorem lookup_map_values (mapping : Renaming) (change : Lifetime → Lifetime)
    (lifetime : Lifetime) :
    List.lookup lifetime (mapping.map (Prod.map id change)) =
      (mapping.lookup lifetime).map change := by
  induction mapping with
  | nil => rfl
  | cons pair rest inductionHypothesis =>
      rcases pair with ⟨source, target⟩
      rw [List.map_cons, Prod.map_apply, id_eq, List.lookup_cons, List.lookup_cons,
        inductionHypothesis]
      cases lifetime == source <;> rfl

/-- The renaming that does what two renamings do in turn. -/
def followedBy (first second : Renaming) : Renaming :=
  first.map (Prod.map id second.apply) ++ second

theorem apply_followedBy (first second : Renaming) (lifetime : Lifetime) :
    (first.followedBy second).apply lifetime = second.apply (first.apply lifetime) := by
  rw [apply, followedBy, List.lookup_append, lookup_map_values]
  cases found : first.lookup lifetime with
  | none => rw [apply, apply, found]; rfl
  | some target => rw [apply, apply, found]; rfl

private theorem binding_map (parameters arguments : List Lifetime) (change : Lifetime → Lifetime) :
    binding parameters (arguments.map change) =
      (binding parameters arguments).map (Prod.map id change) := by
  rw [binding, binding, ofPairs, ofPairs, List.zip_map_right, List.map_reverse]

/-- A parameter is led to the changed argument. -/
theorem apply_binding_map {parameters arguments : List Lifetime}
    (sameLength : parameters.length = arguments.length) {lifetime : Lifetime}
    (known : lifetime ∈ parameters) (change : Lifetime → Lifetime) :
    (binding parameters (arguments.map change)).apply lifetime =
      change ((binding parameters arguments).apply lifetime) := by
  rcases exists_lookup_binding sameLength known with ⟨argument, _, bound⟩
  rw [apply, apply, binding_map, lookup_map_values, bound]
  rfl

end Renaming

namespace Ty

/-- Renaming depends only on what becomes of the lifetimes that occur. -/
theorem rename_congr {first second : Lifetime → Lifetime} {type : Ty}
    (agree : ∀ lifetime ∈ type.lifetimes, first lifetime = second lifetime) :
    type.rename first = type.rename second := by
  induction type with
  | borrow lifetime mutability target inductionHypothesis =>
      rcases List.forall_mem_cons.mp agree with ⟨here, behind⟩
      rw [rename, rename, here, inductionHypothesis behind]
  | struct name arguments => exact congrArg (struct name) (List.map_congr_left agree)
  | unit | int | bool | missing => rfl

theorem rename_rename (first second : Lifetime → Lifetime) (type : Ty) :
    (type.rename first).rename second = type.rename (second ∘ first) := by
  induction type with
  | borrow lifetime mutability target inductionHypothesis =>
      rw [rename, rename, rename, inductionHypothesis]
      rfl
  | struct name arguments => rw [rename, rename, rename, List.map_map]
  | unit | int | bool | missing => rfl

/-- Lifetimes that become one are listed once. -/
theorem freeLifetimes_rename (change : Lifetime → Lifetime) (type : Ty) :
    (type.rename change).freeLifetimes = (type.freeLifetimes.map change).eraseDups := by
  rw [freeLifetimes, freeLifetimes, lifetimes_rename, eraseDups_map_eraseDups]

end Ty

namespace StructDecl

/-- Field types at changed arguments are the changed field types. -/
theorem fieldTypes_map {decl : StructDecl} (ownParameters : decl.UsesOwnParameters)
    (change : Lifetime → Lifetime) {arguments : List Lifetime} {types : List Ty}
    (instantiated : decl.fieldTypes arguments = .ok types) :
    decl.fieldTypes (arguments.map change) = .ok (types.map (Ty.rename change)) := by
  rcases fieldTypes_eq_ok.mp instantiated with ⟨sameLength, rfl⟩
  refine fieldTypes_eq_ok.mpr ⟨by rw [sameLength, List.length_map], ?_⟩
  rw [List.map_map]
  apply List.map_congr_left
  intro field listed
  rw [Function.comp, Ty.rename_rename]
  apply Ty.rename_congr
  intro lifetime occurs
  exact (Renaming.apply_binding_map sameLength (ownParameters field listed lifetime occurs)
    change).symm

theorem exists_fieldTypes_iff (decl : StructDecl) (arguments : List Lifetime) :
    (∃ types, decl.fieldTypes arguments = .ok types) ↔
      decl.parameters.length = arguments.length := by
  simp [fieldTypes_eq_ok]

end StructDecl

/-- Renaming a type twice is renaming it once by the renamings in sequence, and the
lifetimes of a renamed type are the renamed lifetimes without the later repetitions.  For
a structure whose fields mention only its parameters, the field types at renamed
arguments are the renamed field types.  They exist at the one if they exist at the other,
which depends on the number of arguments only. -/
theorem Renaming.renaming_laws (first second : Renaming) :
    (∀ lifetime, (first.followedBy second).apply lifetime =
      second.apply (first.apply lifetime)) ∧
    (∀ type : Ty, (type.rename first.apply).rename second.apply =
      type.rename (first.followedBy second).apply) ∧
    (∀ type : Ty, (type.rename first.apply).freeLifetimes =
      (type.freeLifetimes.map first.apply).eraseDups) ∧
    ∀ decl : StructDecl, decl.UsesOwnParameters → ∀ arguments : List Lifetime,
      ((∃ types, decl.fieldTypes arguments = .ok types) ↔
        decl.parameters.length = arguments.length) ∧
      ∀ renamed, decl.fieldTypes (arguments.map first.apply) = .ok renamed ↔
        ∃ types, decl.fieldTypes arguments = .ok types ∧
          renamed = types.map (Ty.rename first.apply) := by
  refine ⟨first.apply_followedBy second, ?_, Ty.freeLifetimes_rename _, ?_⟩
  · intro type
    rw [Ty.rename_rename]
    congr 1
    funext lifetime
    exact (first.apply_followedBy second lifetime).symm
  · intro decl ownParameters arguments
    refine ⟨decl.exists_fieldTypes_iff arguments, ?_⟩
    intro renamed
    constructor
    · intro instantiated
      have sameLength := (decl.exists_fieldTypes_iff _).mp ⟨renamed, instantiated⟩
      rw [List.length_map] at sameLength
      rcases (decl.exists_fieldTypes_iff _).mpr sameLength with ⟨types, before⟩
      have after := StructDecl.fieldTypes_map ownParameters first.apply before
      exact ⟨types, before, Except.ok.inj (instantiated.symm.trans after)⟩
    · rintro ⟨types, before, rfl⟩
      exact StructDecl.fieldTypes_map ownParameters first.apply before

/-- A node with a reference to a node whose arguments are exchanged. -/
def exchangingNode : StructDecl :=
  { name := "Node"
    parameters := [.named "p", .named "q"]
    fields := [
      { name := "next"
        type := .borrow (.named "p") .shared (.struct "Node" [.named "q", .named "p"]) }] }

/-- Two lifetimes are exchanged and then become one.  In the field of the node they change
places as the arguments do, and after the second renaming a single one is left. -/
theorem exchangingNode_renamed :
    let exchange : Renaming := [(.named "x", .named "y"), (.named "y", .named "x")]
    let merge : Renaming := [(.named "x", .named "z"), (.named "y", .named "z")]
    let next (first second : Lifetime) : Ty :=
      .borrow first .shared (.struct "Node" [second, first])
    exchangingNode.UsesOwnParameters ∧
      exchangingNode.fieldTypes ([.named "x", .named "y"].map exchange.apply) =
        .ok [next (.named "y") (.named "x")] ∧
      ((next (.named "x") (.named "y")).rename exchange.apply).rename merge.apply =
        next (.named "z") (.named "z") ∧
      ((next (.named "x") (.named "y")).rename merge.apply).freeLifetimes = [.named "z"] := by
  intro exchange merge next
  have ownParameters : exchangingNode.UsesOwnParameters := by
    unfold StructDecl.UsesOwnParameters
    decide
  rcases Renaming.renaming_laws exchange merge with ⟨_, twice, _, fields⟩
  rcases Renaming.renaming_laws merge exchange with ⟨_, _, free, _⟩
  refine ⟨ownParameters, ?_, ?_, ?_⟩
  · exact ((fields exchangingNode ownParameters _).2 _).mpr
      ⟨[next (.named "x") (.named "y")], rfl, rfl⟩
  · rw [twice]
    decide
  · rw [free]
    decide

end BorrowChecker
