import BorrowChecker.Liveness
import BorrowChecker.Proofs.Dataflow

namespace BorrowChecker

/-!
Live locals and what they require of lifetimes.

A local that an instruction reads is live there, and a local that is live after
an instruction was live before it unless the instruction discards its value.
These two steps carry liveness backward along any walk, and nothing else makes a
local live.  Requirements on lifetimes hold the points they were listed with.
-/

/-! ## The locals of an instruction -/

theorem Instr.root_mem_uses {instr : Instr} (place : Place) (reads : place ∈ instr.operands)
    (result : Option Int) : place.root ∈ instr.uses result :=
  List.mem_append_left _ (List.mem_map_of_mem (List.mem_append_left _ reads))

namespace Body
namespace InstrInOrder

variable {body : Body} {program : Program} {label : Nat} {instr : Instr}

theorem target_inRange (inOrder : body.InstrInOrder program label instr) {target : Place}
    (writes : instr.target? = some target) : inRange body.locals.length target.root = true := by
  apply inOrder.places
  unfold Instr.places
  rw [writes]
  simp

theorem operand_inRange (inOrder : body.InstrInOrder program label instr) {operand : Place}
    (reads : operand ∈ instr.operands) : inRange body.locals.length operand.root = true :=
  inOrder.places operand (List.mem_append_left _ reads)

/-- The local whose storage ends is one of the body. -/
theorem victim_inRange {victim next : Int}
    (inOrder : body.InstrInOrder program label (.deinit victim next)) :
    inRange body.locals.length victim = true :=
  demand_eq_ok.mp inOrder.arity

theorem defs_inRange (inOrder : body.InstrInOrder program label instr) {position : Int}
    (discards : position ∈ instr.defs) : inRange body.locals.length position = true := by
  cases instr with
  | deinit victim next =>
      have same : position = victim := by simpa [Instr.defs] using discards
      rw [same]
      exact inOrder.victim_inRange
  | assign | goto | branch | call | ret =>
      simp only [Instr.defs, List.mem_map, Option.mem_toList, Option.filter_eq_some_iff] at discards
      rcases discards with ⟨target, ⟨writes, _⟩, rfl⟩
      exact inOrder.target_inRange writes

private theorem uses_inRange (inOrder : body.InstrInOrder program label instr) {result : Option Int}
    (inBody : ∀ position, result = some position → inRange body.locals.length position = true)
    {position : Int} (reads : position ∈ instr.uses result) :
    inRange body.locals.length position = true := by
  unfold Instr.uses at reads
  rcases List.mem_append.mp reads with rooted | returned
  · rcases List.mem_map.mp rooted with ⟨place, listed, rfl⟩
    rcases List.mem_append.mp listed with operand | pointer
    · exact inOrder.operand_inRange operand
    · simp only [Option.mem_toList, Option.filter_eq_some_iff] at pointer
      exact inOrder.target_inRange pointer.1
  · split at returned
    · exact inBody position (Option.mem_toList.mp returned)
    · simp at returned

end InstrInOrder

private theorem returnLocal?_lt {body : Body} {position : Nat}
    (found : body.returnLocal? = some position) : position < body.locals.length := by
  have listed : position ∈ body.localsOfKind .result := List.mem_of_head? found
  exact List.mem_range.mp (List.mem_filter.mp listed).1

/-- The local read by a return, as the liveness transfer names it. -/
def returned? (body : Body) : Option Int := body.returnLocal?.map Int.ofNat

private theorem returned?_inRange {body : Body} {position : Int}
    (found : body.returned? = some position) : inRange body.locals.length position = true := by
  rcases Option.map_eq_some_iff.mp found with ⟨index, returned, rfl⟩
  exact (inRange_iff _ _).mpr ⟨index, rfl, returnLocal?_lt returned⟩

/-- What an instruction discards and reads is known, except that a return needs a local to
read. -/
theorem defsUses_cases (body : Body) (instr : Instr) :
    body.defsUses instr = .ok (instr.defs, instr.uses body.returned?) ∨
      instr = .ret ∧ body.returnLocal? = none ∧ ∃ fault, body.defsUses instr = .error fault := by
  cases instr with
  | ret =>
      unfold defsUses returnLocal returned?
      cases body.returnLocal? with
      | none => exact .inr ⟨rfl, rfl, _, rfl⟩
      | some position => exact .inl rfl
  | assign | deinit | goto | branch | call => exact .inl (by simp [defsUses, Instr.uses])

theorem InOrder.liveLocals_eq {body : Body} {program : Program}
    (inOrder : body.InOrder program) {flow : Flow} (found : body.flow = .ok flow) :
    body.liveLocals flow = .ok (body.liveness flow) := by
  have known : ∀ label ∈ flow.reachable.reverse, ∃ parts, body.defsUsesAt label = .ok parts := by
    intro label listed
    have reached := (Flow.mem_reachable_iff found label).mp (List.mem_reverse.mp listed)
    have below := Flow.size_eq found ▸ Flow.lt_size_of_reachable found reached
    rcases inOrder.exists_instr below with ⟨instr, here⟩
    unfold defsUsesAt
    rw [here]
    rcases body.defsUses_cases instr with known | ⟨_, noResult, _⟩
    · exact ⟨_, known⟩
    · rcases inOrder.exists_returnLocal? with ⟨position, isResult⟩
      simp [noResult] at isResult
  rcases mapM_ok_of_forall known with ⟨parts, visited⟩
  exact bind_eq_ok.mpr ⟨parts, visited, rfl⟩

/-! ## One step backward -/

theorem contains_positions {bound : Nat} {positions : List Int}
    (inside : ∀ position ∈ positions, inRange bound position = true) (index : Nat) :
    (IndexSet.ofList bound (positions.map Int.toNat)).contains index = true ↔
      (index : Int) ∈ positions := by
  simp only [IndexSet.contains_ofList, Bool.and_eq_true, decide_eq_true_eq,
    List.contains_iff_mem, List.mem_map]
  constructor
  · rintro ⟨_, position, listed, same⟩
    rcases (inRange_iff _ _).mp (inside position listed) with ⟨natural, rfl, _⟩
    have equal : natural = index := by simpa using same
    rw [← equal]
    exact listed
  · intro listed
    rcases (inRange_iff _ _).mp (inside _ listed) with ⟨natural, same, below⟩
    have equal : index = natural := by omega
    exact ⟨equal ▸ below, _, listed, by simp⟩

/-- A local is live before an instruction that reads it, or if it is live
afterwards and not discarded. -/
theorem InstrInOrder.contains_liveBefore {body : Body} {program : Program} {label : Nat}
    {instr : Instr} (inOrder : body.InstrInOrder program label instr)
    (here : body.instr? label = some instr) (after : IndexSet body.locals.length)
    (position : Nat) :
    (body.liveBefore label after).contains position = true ↔
      (after.contains position = true ∧ (position : Int) ∉ instr.defs) ∨
        (position : Int) ∈ instr.uses body.returned? := by
  have discarded := contains_positions (fun _ listed => inOrder.defs_inRange listed) position
  have read := contains_positions
    (fun _ listed => inOrder.uses_inRange (fun _ found => returned?_inRange found) listed) position
  unfold liveBefore defsUsesAt
  rw [here]
  rcases body.defsUses_cases instr with known | ⟨rfl, noResult, fault, unknown⟩
  case inr =>
    simp [unknown, Instr.defs, Instr.uses, Instr.target?, Instr.operands, returned?, noResult]
  simp only [known, IndexSet.contains_union, IndexSet.contains_diff, Bool.or_eq_true,
    Bool.and_eq_true, Bool.not_eq_true', ← Bool.not_eq_true]
  rw [discarded]
  exact or_congr Iff.rfl read

end Body

/-! ## Liveness of a body -/

theorem Liveness.mem_liveAt_iff (liveness : Liveness) (label position : Nat) :
    position ∈ liveness.liveAt label ↔
      ∃ set, liveness.states.at? label = some set ∧ set.contains position = true := by
  unfold Liveness.liveAt
  cases liveness.states.at? label <;> simp

namespace Body

variable {body : Body} {program : Program} {flow : Flow}

theorem mem_liveAt_iff_setsAfter (label position : Nat) :
    position ∈ (body.liveness flow).liveAt label ↔
      ∃ after, (flow.setsAfter IndexSet.empty body.liveBefore).at? label = some after ∧
        (body.liveBefore label after).contains position = true := by
  rw [Liveness.mem_liveAt_iff]
  change (∃ set, (flow.solveBackward IndexSet.empty body.liveBefore).at? label = some set ∧ _) ↔ _
  rw [Flow.at?_solveBackward]
  simp only [Option.map_eq_some_iff]
  constructor
  · rintro ⟨_, ⟨after, here, rfl⟩, live⟩
    exact ⟨after, here, live⟩
  · rintro ⟨after, here, live⟩
    exact ⟨_, ⟨after, here, rfl⟩, live⟩

/-- What an instruction reads is live there. -/
theorem InOrder.live_of_uses (inOrder : body.InOrder program) (found : body.flow = .ok flow)
    {label position : Nat} {instr : Instr} (reached : body.Reachable label)
    (here : body.instr? label = some instr)
    (reads : (position : Int) ∈ instr.uses body.returned?) :
    position ∈ (body.liveness flow).liveAt label := by
  have listed := (Flow.mem_reachable_iff found label).mpr reached
  rcases Flow.setsAfter_of_reachable IndexSet.empty body.liveBefore listed with ⟨after, there, _⟩
  apply (mem_liveAt_iff_setsAfter label position).mpr
  refine ⟨after, there, ?_⟩
  exact ((inOrder.instrInOrder here).contains_liveBefore here after position).mpr (.inr reads)

/-- What is live after an instruction is live before it unless it is
discarded. -/
theorem InOrder.live_of_live_after (inOrder : body.InOrder program)
    (found : body.flow = .ok flow) {source target position : Nat} {instr : Instr}
    (reached : body.Reachable source) (here : body.instr? source = some instr)
    (step : body.Edge source target)
    (live : position ∈ (body.liveness flow).liveAt target)
    (kept : (position : Int) ∉ instr.defs) :
    position ∈ (body.liveness flow).liveAt source := by
  rcases (mem_liveAt_iff_setsAfter target position).mp live with ⟨atTarget, there, live⟩
  have listed := (Flow.mem_reachable_iff found source).mpr reached
  rcases Flow.setsAfter_edge IndexSet.empty body.liveBefore found listed step there with
    ⟨after, atSource, included⟩
  apply (mem_liveAt_iff_setsAfter source position).mpr
  refine ⟨after, atSource, ?_⟩
  apply ((inOrder.instrInOrder here).contains_liveBefore here after position).mpr
  exact .inl ⟨included position live, kept⟩

/-- On some way from a label a local is read before its value is discarded. -/
inductive ReadLater (body : Body) (position : Nat) : Nat → Prop where
  | here {label : Nat} {instr : Instr} (found : body.instr? label = some instr)
      (reads : (position : Int) ∈ instr.uses body.returned?) : ReadLater body position label
  | later {label next : Nat} {instr : Instr} (found : body.instr? label = some instr)
      (kept : (position : Int) ∉ instr.defs) (step : body.Edge label next)
      (rest : ReadLater body position next) : ReadLater body position label

/-- Liveness is exact: live at a reachable label are the locals that are read later,
and nothing is live elsewhere. -/
theorem InOrder.mem_liveAt_iff_readLater (inOrder : body.InOrder program)
    (found : body.flow = .ok flow) (label position : Nat) :
    position ∈ (body.liveness flow).liveAt label ↔
      body.Reachable label ∧ body.ReadLater position label := by
  have before : ∀ label set, body.Reachable label →
      (set.contains position = true →
        ∃ next, body.Edge label next ∧ body.ReadLater position next) →
      (body.liveBefore label set).contains position = true → body.ReadLater position label := by
    intro label set reached accounted live
    have below : label < body.code.length :=
      Flow.size_eq found ▸ Flow.lt_size_of_reachable found reached
    rcases inOrder.exists_instr below with ⟨instr, here⟩
    rcases ((inOrder.instrInOrder here).contains_liveBefore here set position).mp live with
      ⟨member, kept⟩ | reads
    · rcases accounted member with ⟨next, step, rest⟩
      exact .later here kept step rest
    · exact .here here reads
  constructor
  · intro live
    rcases (mem_liveAt_iff_setsAfter label position).mp live with ⟨after, there, live⟩
    let accounted (label : Nat) (set : IndexSet body.locals.length) : Prop :=
      body.Reachable label ∧ (set.contains position = true →
        ∃ next, body.Edge label next ∧ body.ReadLater position next)
    have holds : accounted label after := by
      refine Flow.setsAfter_holds IndexSet.empty body.liveBefore ?_ ?_ ?_ there
      · intro start listed
        refine ⟨(Flow.mem_reachable_iff found start).mp listed, fun member => ?_⟩
        split at member <;> simp at member
      · rintro _ left right ⟨reached, ofLeft⟩ ⟨_, ofRight⟩
        refine ⟨reached, fun member => ?_⟩
        rw [IndexSet.contains_union, Bool.or_eq_true] at member
        exact member.elim ofLeft ofRight
      · rintro target set source ⟨reached, ofSet⟩ incoming listed
        have step := (Flow.mem_predecessors_iff found source target).mp incoming
        exact ⟨(Flow.mem_reachable_iff found source).mp listed,
          fun member => ⟨target, step, before target set reached ofSet member⟩⟩
    exact ⟨holds.1, before label after holds.1 holds.2 live⟩
  · rintro ⟨reached, readLater⟩
    induction readLater with
    | here here reads => exact inOrder.live_of_uses found reached here reads
    | later here kept step _ inductionHypothesis =>
        exact inOrder.live_of_live_after found reached here step
          (inductionHypothesis (reached.next step)) kept

/-- Nothing but the result is live at a return. -/
theorem InOrder.returnLocal?_of_live (inOrder : body.InOrder program)
    (found : body.flow = .ok flow) {label position : Nat}
    (here : body.instr? label = some .ret)
    (live : position ∈ (body.liveness flow).liveAt label) :
    body.returnLocal? = some position := by
  rcases (mem_liveAt_iff_setsAfter label position).mp live with ⟨after, there, live⟩
  have nothing : body.instr? label = some .ret → ∀ index, after.contains index = false := by
    refine Flow.setsAfter_holds IndexSet.empty body.liveBefore
      (motive := fun label set => body.instr? label = some .ret →
        ∀ index, set.contains index = false) ?_ ?_ ?_ there
    · intro label _ _ index
      split <;> exact IndexSet.contains_empty index
    · intro label left right ofLeft ofRight isReturn index
      rw [IndexSet.contains_union, ofLeft isReturn, ofRight isReturn, Bool.or_false]
    · intro target set source _ incoming _ isReturn
      rcases (Flow.mem_predecessors_iff found source target).mp incoming with ⟨instr, there, jump⟩
      rw [Option.some.inj (there.symm.trans isReturn)] at jump
      simp [Instr.successors] at jump
  rcases ((inOrder.instrInOrder here).contains_liveBefore here after position).mp live with
    ⟨member, _⟩ | reads
  · rw [nothing here] at member
    exact absurd member Bool.false_ne_true
  · have returned : body.returned? = some (position : Int) := by
      simpa [Instr.uses, Instr.operands, Instr.target?] using reads
    rcases Option.map_eq_some_iff.mp returned with ⟨index, isResult, same⟩
    have equal : index = position := Int.ofNat.inj same
    rw [← equal]
    exact isResult

end Body

/-! ## Requirements -/

@[simp] theorem IntSet.contains_singleton (member value : Int) :
    (singleton member).contains value = decide (value = member) := by
  rw [Bool.eq_iff_iff]
  simp [contains, singleton]

namespace Requirements

private theorem contains_lookup_addEntry (lifetime other : Lifetime) (index point : Int)
    (entries : List (Lifetime × IntSet)) :
    (((addEntry lifetime index entries).lookup other).getD IntSet.empty).contains point = true ↔
      ((entries.lookup other).getD IntSet.empty).contains point = true ∨
        (other = lifetime ∧ point = index) := by
  induction entries with
  | nil =>
      simp only [addEntry, List.lookup_cons, List.lookup_nil]
      by_cases same : other = lifetime
      · simp [same]
      · have different : (other == lifetime) = false := by simpa using same
        simp [different, same]
  | cons first rest inductionHypothesis =>
      rcases first with ⟨key, points⟩
      unfold addEntry
      by_cases found : key = lifetime
      · rw [if_pos found, List.lookup_cons, List.lookup_cons]
        by_cases same : other = key
        · simp [same, found]
        · have different : (other == key) = false := by simpa using same
          simp [different, found ▸ same]
      · rw [if_neg found, List.lookup_cons, List.lookup_cons]
        by_cases same : other = key
        · simp [same, found]
        · have different : (other == key) = false := by simpa using same
          simpa [different] using inductionHypothesis

private theorem contains_pointsOf_add (requirements : Requirements) (lifetime other : Lifetime)
    (index point : Int) :
    ((requirements.add lifetime index).pointsOf other).contains point = true ↔
      (requirements.pointsOf other).contains point = true ∨
        (other = lifetime ∧ point = index) :=
  contains_lookup_addEntry lifetime other index point requirements.entries

/-- Required are exactly the listed points. -/
theorem contains_pointsOf_ofList (pairs : List (Lifetime × Int)) (lifetime : Lifetime)
    (point : Int) :
    ((ofList pairs).pointsOf lifetime).contains point = true ↔ (lifetime, point) ∈ pairs := by
  suffices collected : ∀ requirements : Requirements,
      ((pairs.foldl (fun current pair => current.add pair.1 pair.2) requirements).pointsOf
          lifetime).contains point = true ↔
        (requirements.pointsOf lifetime).contains point = true ∨ (lifetime, point) ∈ pairs by
    have fromNothing := collected {}
    simpa [ofList, pointsOf] using fromNothing
  induction pairs with
  | nil => simp
  | cons first rest inductionHypothesis =>
      intro requirements
      rw [List.foldl_cons, inductionHypothesis, contains_pointsOf_add, or_assoc, List.mem_cons]
      simp [Prod.ext_iff]

end Requirements

end BorrowChecker
