import BorrowChecker.Proofs.InitializationRule
import BorrowChecker.Proofs.LifetimePoints

namespace BorrowChecker

/-!
The signature rule is exact.

The rule objects to a generic that is alive at a caller point which the signature
does not account for.  Caller points of generics are alive exactly where the
outlives graph leads to the generic, so the rule compares two relations between
generics: what the body demands, and what follows from the declared pairs.  Pairs
that mention a lifetime which is not generic never help, not even as a link between
two generics.
-/

namespace Body

variable {body : Body}

/-- Declared pairs lead from one generic to another, through generics only. -/
inductive Declares (body : Body) : Lifetime → Lifetime → Prop where
  | itself {generic : Lifetime} (listed : generic ∈ body.generics) : Declares body generic generic
  | pair {long middle short : Lifetime} (listed : long ∈ body.generics)
      (declared : { long, short := middle } ∈ body.outlives) (rest : Declares body middle short) :
      Declares body long short

namespace Declares

private theorem long_mem {long short : Lifetime} (declares : body.Declares long short) :
    long ∈ body.generics := by
  cases declares with
  | itself listed => exact listed
  | pair listed _ _ => exact listed

end Declares

/-- An arc between two positions is a declared pair of the generics that stand there. -/
theorem mem_declaredArcs_iff {source target : Nat} :
    (source, target) ∈ body.declaredArcs ↔
      ∃ long short, { long, short } ∈ body.outlives ∧
        (Table.positions body.generics).get? long = some source ∧
        (Table.positions body.generics).get? short = some target := by
  simp only [declaredArcs, List.mem_filterMap]
  constructor
  · rintro ⟨⟨long, short⟩, declared, found⟩
    split at found
    · rename_i atLong atShort
      rcases Prod.mk.inj (Option.some.inj found) with ⟨rfl, rfl⟩
      exact ⟨long, short, declared, atLong, atShort⟩
    · simp at found
  · rintro ⟨long, short, declared, atLong, atShort⟩
    exact ⟨_, declared, by simp [atLong, atShort]⟩

private theorem exists_declaredGraph (body : Body) :
    ∃ declared, Digraph.ofArcs body.generics.length body.declaredArcs = .ok declared ∧
      ∀ source target, target ∈ declared.neighbours source ↔
        (source, target) ∈ body.declaredArcs := by
  refine Digraph.exists_ofArcs fun arc isArc => ?_
  rcases mem_declaredArcs_iff.mp isArc with ⟨long, short, _, atLong, atShort⟩
  exact ⟨(List.getElem?_eq_some_iff.mp (Table.getElem?_of_positions atLong)).1,
    (List.getElem?_eq_some_iff.mp (Table.getElem?_of_positions atShort)).1⟩

/-- The search from a position finds the generics that stand where arcs lead to. -/
theorem exists_declaredFrom (declared : Digraph body.generics.length) {source : Nat}
    (inside : source < body.generics.length) :
    ∃ found, body.declaredFrom declared source = .ok found ∧
      ∀ short, short ∈ found ↔ ∃ target,
        Reach.Leads declared.neighbours source target ∧ body.generics[target]? = some short := by
  have listed : ∀ target ∈ declared.reached source,
      ∃ generic, requireAt body.generics (target : Nat) = .ok generic := by
    intro target reached
    have below := Digraph.lt_size_of_leads inside (Digraph.mem_reached_iff.mp reached)
    exact exists_requireAt below
  rcases mapM_ok_of_forall listed with ⟨found, visited⟩
  refine ⟨_, bind_eq_ok.mpr ⟨found, visited, rfl⟩, fun short => ?_⟩
  rw [List.mem_eraseDups]
  constructor
  · intro isFound
    rcases exists_of_mem_mapM visited isFound with ⟨target, reached, there⟩
    rw [requireAt_natCast] at there
    exact ⟨target, Digraph.mem_reached_iff.mp reached, there⟩
  · rintro ⟨target, leads, there⟩
    rcases exists_of_mapM visited (Digraph.mem_reached_iff.mpr leads) with
      ⟨generic, isFound, alsoThere⟩
    rw [requireAt_natCast] at alsoThere
    rwa [Option.some.inj (there.symm.trans alsoThere)]

section DeclaredGraph

variable {declared : Digraph body.generics.length}
  (isDeclared : ∀ source target, target ∈ declared.neighbours source ↔
    (source, target) ∈ body.declaredArcs)

include isDeclared

/-- Arcs lead through positions of generics that are declared in turn.  The first position
may be any at which the generic is listed. -/
theorem declares_of_leads {source target : Nat}
    (leads : Reach.Leads declared.neighbours source target) {long short : Lifetime}
    (atSource : body.generics[source]? = some long)
    (atTarget : body.generics[target]? = some short) : body.Declares long short := by
  induction leads generalizing long with
  | refl position =>
      rw [Option.some.inj (atTarget.symm.trans atSource)]
      exact .itself (List.mem_of_getElem? atSource)
  | @step source middle _ arc _ inductionHypothesis =>
      rcases mem_declaredArcs_iff.mp ((isDeclared _ _).mp arc) with
        ⟨first, second, pair, atFirst, atSecond⟩
      have same := Option.some.inj (atSource.symm.trans (Table.getElem?_of_positions atFirst))
      rw [same] at atSource ⊢
      exact .pair (List.mem_of_getElem? atSource) pair
        (inductionHypothesis (Table.getElem?_of_positions atSecond) atTarget)

/-- From the last position of a generic, the arcs lead to all that is declared. -/
theorem exists_leads_of_declares {long short : Lifetime} (declares : body.Declares long short)
    {source : Nat} (atSource : (Table.positions body.generics).get? long = some source) :
    ∃ target, Reach.Leads declared.neighbours source target ∧
      body.generics[target]? = some short := by
  induction declares generalizing source with
  | itself => exact ⟨source, .refl source, Table.getElem?_of_positions atSource⟩
  | pair _ pair rest inductionHypothesis =>
      rcases Table.exists_positions rest.long_mem with ⟨next, atNext⟩
      rcases inductionHypothesis atNext with ⟨target, leads, atTarget⟩
      have arc := mem_declaredArcs_iff.mpr ⟨_, _, pair, atSource, atNext⟩
      exact ⟨target, .step ((isDeclared _ _).mpr arc) leads, atTarget⟩

end DeclaredGraph

/-- What is found from the last position of a generic stays. -/
private theorem exists_foldlM_insert {κ μ ν : Type} [DecidableEq κ] {entries : List (κ × μ)}
    {search : μ → Except Fault ν} {found : μ → ν}
    (succeeds : ∀ entry ∈ entries, search entry.2 = .ok (found entry.2)) {positions : Table κ μ}
    {closure : Table κ ν} (agree : ∀ key, closure.get? key = (positions.get? key).map found) :
    ∃ result, entries.foldlM (fun closure entry =>
        return closure.insert entry.1 (← search entry.2)) closure = .ok result ∧
      ∀ key, result.get? key = ((entries.foldl (fun table entry =>
        table.insert entry.1 entry.2) positions).get? key).map found := by
  induction entries generalizing positions closure with
  | nil => exact ⟨closure, rfl, agree⟩
  | cons first rest inductionHypothesis =>
      rcases List.forall_mem_cons.mp succeeds with ⟨searched, succeeds⟩
      have agreeAfter : ∀ key, (closure.insert first.1 (found first.2)).get? key =
          ((positions.insert first.1 first.2).get? key).map found := by
        intro key
        rw [Table.get?_insert, Table.get?_insert]
        split
        · rfl
        · exact agree key
      rcases inductionHypothesis succeeds agreeAfter with ⟨result, folded, agreeLast⟩
      refine ⟨result, ?_, agreeLast⟩
      rw [List.foldlM_cons, searched]
      exact folded

/-- The search through the declared pairs succeeds, and finds for each generic what they
lead to. -/
theorem exists_declaredOutlives (body : Body) :
    ∃ closure, body.declaredOutlives = .ok closure ∧
      ∀ long ∈ body.generics, ∀ short,
        short ∈ (closure.get? long).getD [] ↔ body.Declares long short := by
  rcases body.exists_declaredGraph with ⟨declared, built, isDeclared⟩
  let found (position : Nat) := ((body.declaredFrom declared position).toOption).getD []
  have succeeds : ∀ position < body.generics.length,
      body.declaredFrom declared position = .ok (found position) := by
    intro position inside
    rcases exists_declaredFrom declared inside with ⟨result, searched, _⟩
    simp [found, searched, Except.toOption]
  have searched : ∀ entry ∈ body.generics.zipIdx,
      body.declaredFrom declared entry.2 = .ok (found entry.2) :=
    fun entry listed => succeeds entry.2 (List.snd_lt_of_mem_zipIdx listed)
  have agreeBefore : ∀ key : Lifetime, ({} : Table Lifetime (List Lifetime)).get? key =
      (({} : Table Lifetime Nat).get? key).map found := fun _ => rfl
  rcases exists_foldlM_insert searched agreeBefore with ⟨closure, folded, agree⟩
  refine ⟨closure, bind_eq_ok.mpr ⟨declared, built, folded⟩, fun long listed short => ?_⟩
  rcases Table.exists_positions listed with ⟨source, atLong⟩
  have there := Table.getElem?_of_positions atLong
  have inside := (List.getElem?_eq_some_iff.mp there).1
  have ofLong : closure.get? long = some (found source) := by
    rw [agree]
    exact congrArg (Option.map found) atLong
  rcases exists_declaredFrom declared inside with ⟨result, searched, isFound⟩
  rw [ofLong, Option.getD_some, Except.ok.inj ((succeeds source inside).symm.trans searched),
    isFound]
  constructor
  · rintro ⟨target, leads, atTarget⟩
    exact declares_of_leads isDeclared leads there atTarget
  · intro declares
    exact exists_leads_of_declares isDeclared declares atLong

namespace Analyzed

variable {analysis : Analysis}

/-- The rule looks at caller points only, and never asks for a point that does not
exist. -/
theorem checkSignature_eq (analyzed : body.Analyzed analysis) :
    body.checkSignature analysis.lifetimes = (Scan.ask body.declaredOutlives >>= fun closure =>
      body.generics.forM fun generic => (analysis.aliveCallers generic).forM fun other =>
        body.checkPoint generic ((closure.get? generic).getD []) (.caller other)) := by
  unfold checkSignature
  congr 1
  funext closure
  congr 1
  funext generic
  rw [analyzed.points_eq generic]
  have labelsPass : ((analysis.aliveLabels generic).map fun (label : Nat) => Point.label label).forM
      (body.checkPoint generic ((closure.get? generic).getD [])) = .ok () := by
    apply forM_eq_ok.mpr
    intro point listed
    rcases List.mem_map.mp listed with ⟨label, _, rfl⟩
    rfl
  simp only [Scan.ask, bind, Except.bind, List.forM_eq_forM] at labelsPass ⊢
  rw [List.forM_append, labelsPass, List.forM_map]
  rfl

theorem checkSignature_of_declared (analyzed : body.Analyzed analysis)
    {closure : Table Lifetime (List Lifetime)} (searched : body.declaredOutlives = .ok closure) :
    body.checkSignature analysis.lifetimes = body.generics.forM fun generic =>
      (analysis.aliveCallers generic).forM fun other =>
        body.checkPoint generic ((closure.get? generic).getD []) (.caller other) := by
  rw [analyzed.checkSignature_eq, searched]
  rfl

/-- The rule is silent if and only if every demand between generics is declared. -/
theorem checkSignature_eq_ok (analyzed : body.Analyzed analysis) :
    body.checkSignature analysis.lifetimes = .ok () ↔
      ∀ long ∈ body.generics, ∀ short ∈ body.generics,
        analysis.graph.Outlasts long short → body.Declares long short := by
  rcases body.exists_declaredOutlives with ⟨closure, searched, isDeclared⟩
  have silent {long short : Lifetime} (listed : long ∈ body.generics) :
      body.checkPoint long ((closure.get? long).getD []) (.caller short) = .ok () ↔
        body.Declares long short := by
    rw [checkPoint, Scan.objectIf_eq_ok, Bool.not_eq_false', List.contains_iff_mem,
      isDeclared long listed]
  rw [analyzed.checkSignature_of_declared searched]
  simp only [forM_eq_ok, analyzed.mem_aliveCallers_iff]
  constructor
  · intro passed long listed short alsoListed outlasts
    exact (silent listed).mp (passed long listed short ⟨alsoListed, outlasts⟩)
  · rintro declared long listed short ⟨alsoListed, outlasts⟩
    exact (silent listed).mpr (declared long listed short alsoListed outlasts)

/-- If the rule is not silent, it objects to a demand that is not declared, and lists
what is. -/
theorem stop_of_checkSignature (analyzed : body.Analyzed analysis) {stop : Stop}
    (stopped : body.checkSignature analysis.lifetimes = .error stop) :
    ∃ long ∈ body.generics, ∃ short ∈ body.generics, ∃ declared : List Lifetime,
      stop = .complaint body.loc (.missingOutlives long short declared) ∧
      ∀ lifetime, lifetime ∈ declared ↔ body.Declares long lifetime := by
  rcases body.exists_declaredOutlives with ⟨closure, searched, isDeclared⟩
  rw [analyzed.checkSignature_of_declared searched] at stopped
  rcases exists_of_forM_eq_error stopped with ⟨long, listed, stopped⟩
  rcases exists_of_forM_eq_error stopped with ⟨short, alive, stopped⟩
  refine ⟨long, listed, short, ((analyzed.mem_aliveCallers_iff long short).mp alive).1,
    ((closure.get? long).getD []).mergeSort Lifetime.precedes, ?_, fun lifetime => ?_⟩
  · simp only [checkPoint] at stopped
    unfold Scan.objectIf at stopped
    split at stopped
    · exact (Except.error.inj stopped).symm
    · simp at stopped
  · rw [List.mem_mergeSort, isDeclared long listed]

/-- The signature rule always comes to a verdict: it passes, or it objects at the
body itself. -/
theorem firstViolation_lifetimes (analyzed : body.Analyzed analysis) :
    (body.checkSignature analysis.lifetimes = .ok () ∧
      analysis.firstViolation .lifetimes = .ok none) ∨
    ∃ violation, analysis.firstViolation .lifetimes = .ok (some violation) ∧
      violation.kind = .missingOutlives ∧ violation.loc = body.loc ∧
      body.checkSignature analysis.lifetimes ≠ .ok () := by
  have sameScan : analysis.scan .lifetimes = body.checkSignature analysis.lifetimes := by
    rw [← analyzed.sameBody]
    rfl
  unfold Analysis.firstViolation
  rw [sameScan]
  cases scanned : body.checkSignature analysis.lifetimes with
  | ok value => exact .inl ⟨rfl, rfl⟩
  | error stop =>
      rcases analyzed.stop_of_checkSignature scanned with ⟨long, _, short, _, _, rfl, _⟩
      exact .inr ⟨_, rfl, rfl, rfl, nofun⟩

end Analyzed

/-- The signature rule reports a missing declaration if and only if some generic has
to outlive another one, or itself, without declared pairs that say so.  It reports
nothing else, and it never fails to answer. -/
theorem missingOutlives_iff {analysis : Analysis} (found : body.analyze = .ok analysis) :
    ((∃ violation, analysis.firstViolation .lifetimes = .ok (some violation) ∧
        violation.kind = .missingOutlives) ↔
      ∃ long ∈ body.generics, ∃ short ∈ body.generics,
        analysis.graph.Outlasts long short ∧ ¬ body.Declares long short) ∧
    (analysis.firstViolation .lifetimes = .ok none ↔
      ∀ long ∈ body.generics, ∀ short ∈ body.generics,
        analysis.graph.Outlasts long short → body.Declares long short) := by
  have analyzed := analyzed_of_analyze found
  have silent := analyzed.checkSignature_eq_ok
  rcases analyzed.firstViolation_lifetimes with
    ⟨passed, answer⟩ | ⟨violation, answer, kind, _, failed⟩
  · have allDeclared := silent.mp passed
    refine ⟨⟨?_, ?_⟩, ⟨fun _ => allDeclared, fun _ => answer⟩⟩
    · rintro ⟨violation, reported, _⟩
      rw [answer] at reported
      simp at reported
    · rintro ⟨long, listed, short, alsoListed, outlasts, undeclared⟩
      exact absurd (allDeclared long listed short alsoListed outlasts) undeclared
  · have someUndeclared := mt silent.mpr failed
    refine ⟨⟨fun _ => ?_, fun _ => ⟨violation, answer, kind⟩⟩, ⟨?_, fun all => ?_⟩⟩
    · simpa only [Classical.not_forall, exists_prop] using someUndeclared
    · intro reported
      rw [answer] at reported
      simp at reported
    · exact absurd all someUndeclared

/-- A body that hands its parameter on as its result.  The generics are listed
repeatedly, and the declared pairs go in circles.  They lead from the lifetime of the
parameter to that of the result, but only through a lifetime that is not generic. -/
def declaredThroughStranger : Body :=
  { name := "pass"
    program := some (.ofDeclarations [] [])
    locals := [
      { name := "out", kind := .result, type := .borrow { name := "b" } .shared .int },
      { name := "in", kind := .parameter, type := .borrow { name := "a" } .shared .int }]
    code := [
      { instr := some (.assign (.ofLocal 0) (.use (.ofLocal 1)) 1) },
      { instr := some .ret }]
    generics := [{ name := "a" }, { name := "b" }, { name := "a" }]
    outlives := [
      { long := { name := "a" }, short := { name := "stranger" } },
      { long := { name := "stranger" }, short := { name := "b" } },
      { long := { name := "b" }, short := { name := "b" } },
      { long := { name := "b" }, short := { name := "a" } }] }

theorem declaredThroughStranger_misses_outlives :
    ∃ analysis, declaredThroughStranger.analyze = .ok analysis ∧
      (∃ violation, analysis.firstViolation .lifetimes = .ok (some violation) ∧
        violation.kind = .missingOutlives) ∧
      ∃ long ∈ declaredThroughStranger.generics, ∃ short ∈ declaredThroughStranger.generics,
        analysis.graph.Outlasts long short ∧ ¬ declaredThroughStranger.Declares long short := by
  have evaluated : (declaredThroughStranger.analyze.toOption.bind fun analysis =>
      (analysis.firstViolation .lifetimes).toOption.join.map Violation.kind) =
        some .missingOutlives := by
    decide +kernel
  rcases Option.bind_eq_some_iff.mp evaluated with ⟨analysis, found, evaluated⟩
  rcases Option.map_eq_some_iff.mp evaluated with ⟨violation, reported, kind⟩
  rw [toOption_eq_some] at found
  rw [Option.join_eq_some_iff, toOption_eq_some] at reported
  have objected : ∃ violation, analysis.firstViolation .lifetimes = .ok (some violation) ∧
      violation.kind = .missingOutlives := ⟨violation, reported, kind⟩
  exact ⟨analysis, found, objected, (missingOutlives_iff found).1.mp objected⟩

end Body
end BorrowChecker
