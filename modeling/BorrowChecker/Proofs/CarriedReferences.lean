import BorrowChecker.Proofs.Acceptance
import BorrowChecker.Proofs.ActiveLoans
import BorrowChecker.Proofs.AliasingRule
import BorrowChecker.Proofs.CollectedDemands
import BorrowChecker.Proofs.LifetimePoints

namespace BorrowChecker
namespace Body

/-!
References that are carried along the control flow.

A reference is made by a borrow into a local and may then be copied, reborrowed
or packed into a structure, any number of times.  As long as the local that holds
it is live, the loan it came from stays active: each hand-over passes the
lifetime of the loan on to the type of the next holder, live holders keep that
lifetime alive, and alive loans keep arriving.  An accepted body therefore
contains no conflict with the loan while the reference may still be used.

The exception is a return.  Nothing objects to returning a reference to a
temporary of the function itself.
-/

/-- An instruction leaves a reference with its holder or hands it to another
local. -/
inductive Hands : Instr → Nat → Nat → Prop where
  | keeps {instr : Instr} {holder : Nat} (kept : (holder : Int) ∉ instr.defs) :
      Hands instr holder holder
  | copies (holder receiver : Nat) (next : Int) :
      Hands (.assign (.ofLocal receiver) (.use (.ofLocal holder)) next) holder receiver
  | reborrows {holder : Nat} {place : Place} (receiver : Nat) (mutability : Mutability)
      (next : Int) (rooted : place.root = holder) :
      Hands (.assign (.ofLocal receiver) (.borrow mutability place) next) holder receiver
  | packs {holder : Nat} {arguments : List Int} (receiver : Nat) (name : String) (next : Int)
      (packed : (holder : Int) ∈ arguments) :
      Hands (.assign (.ofLocal receiver) (.make name arguments) next) holder receiver

/-- Some way from `origin`, where a reference is made, to a label leaves the
reference in the given local. -/
inductive Carried (body : Body) (origin : Nat) : Nat → Nat → Prop where
  | made {label holder : Nat} {mutability : Mutability} {place : Place} {next : Int}
      (borrows : body.instr? origin =
        some (.assign (.ofLocal holder) (.borrow mutability place) next))
      (step : body.Edge origin label) : Carried body origin label holder
  | handed {label following holder receiver : Nat} {instr : Instr}
      (before : Carried body origin label holder) (here : body.instr? label = some instr)
      (hands : Hands instr holder receiver) (step : body.Edge label following) :
      Carried body origin following receiver

variable {body : Body} {program : Program}

theorem Carried.reachable {origin label holder : Nat} (carried : body.Carried origin label holder)
    (reached : body.Reachable origin) : body.Reachable label := by
  induction carried with
  | made _ step => exact reached.next step
  | handed _ _ _ step inductionHypothesis => exact inductionHypothesis.next step

/-! ## Lifetimes are handed on -/

/-- Whoever hands a reference on passes every lifetime of its type to the type of
the receiver. -/
theorem InOrder.passes_of_hands (inOrder : body.InOrder program)
    (usesParameters : program.FieldsUseParameters) {graph : OutlivesGraph}
    (found : body.outlivesGraph = .ok graph) {label holder receiver : Nat} {instr : Instr}
    (here : body.instr? label = some instr) (hands : Hands instr holder receiver)
    {giving receiving : Ty} (giver : body.localType holder = .ok giving)
    (taker : body.localType receiver = .ok receiving) :
    graph.Passes giving.lifetimes receiving.lifetimes := by
  rcases exists_instrDemands inOrder found here with ⟨before, after, demanded, extension⟩
  cases hands with
  | keeps =>
      have sameType : giving = receiving := Except.ok.inj (giver.symm.trans taker)
      rw [sameType]
      exact .refl _
  | copies =>
      rcases bind_eq_ok.mp demanded with ⟨targetType, targetTyped, demanded⟩
      rcases bind_eq_ok.mp demanded with ⟨sourceType, sourceTyped, unified⟩
      rw [typeOf_ofLocal] at targetTyped sourceTyped
      have sameTarget : targetType = receiving := Except.ok.inj (targetTyped.symm.trans taker)
      have sameSource : sourceType = giving := Except.ok.inj (sourceTyped.symm.trans giver)
      rw [sameTarget, sameSource] at unified
      exact (Collected.passes_unify unified).2.extend extension
  | reborrows _ _ _ rooted =>
      rcases borrowDemands_eq_ok demanded with
        ⟨lifetime, mutability, pointee, _, rootType, middle, typed, _, rootTyped, _, recorded⟩
      rw [typeOf_ofLocal, taker] at typed
      rw [rooted, giver] at rootTyped
      have sameRoot : giving = rootType := Except.ok.inj rootTyped
      have sameTarget : receiving = .borrow lifetime mutability pointee := Except.ok.inj typed
      intro long occurs
      refine ⟨lifetime, sameTarget ▸ List.mem_cons_self, ?_⟩
      refine (OutlivesGraph.outlasts_of_outlives fun different => ?_).mono extension
      rw [recorded]
      apply (OutlivesGraph.outlives_addAll _ _ _ _).mpr
      refine .inr ⟨different, List.mem_map.mpr ⟨long, ?_, rfl⟩⟩
      exact (Ty.mem_freeLifetimes long rootType).mpr (sameRoot ▸ occurs)
  | @packs _ arguments _ name _ packed =>
      rcases bind_eq_ok.mp demanded with ⟨⟨type, fields, supply⟩, instantiated, demanded⟩
      rcases bind_eq_ok.mp demanded with ⟨middle, unifiedArguments, demanded⟩
      rcases unifyPositions_eq_ok.mp unifiedArguments with ⟨enough, unifiedArguments⟩
      rcases bind_eq_ok.mp demanded with ⟨targetType, targetTyped, unified⟩
      rw [typeOf_ofLocal] at targetTyped
      have sameTarget : targetType = receiving := Except.ok.inj (targetTyped.symm.trans taker)
      rw [sameTarget] at unified
      rcases Program.instantiateStruct_eq_ok instantiated with ⟨_, _, _, mentionsOnly⟩
      rcases List.mem_iff_getElem.mp packed with ⟨position, inArguments, isHolder⟩
      have inFields : position < fields.length := by omega
      have paired := mem_zip_of_lt inFields inArguments
      rw [isHolder] at paired
      have toField := passes_unifyArguments unifiedArguments paired giver
      have toStruct : middle.graph.Passes fields[position].lifetimes type.lifetimes := by
        intro lifetime occurs
        exact ⟨lifetime, mentionsOnly usesParameters _ (List.getElem_mem inFields) lifetime occurs,
          .refl lifetime⟩
      have packedUp := (toField.trans toStruct).extend (Collected.extension_unify unified)
      exact (packedUp.trans (Collected.passes_unify unified).2).extend extension

theorem InOrder.localType_natCast (inOrder : body.InOrder program) {label position : Nat}
    {instr : Instr} (here : body.instr? label = some instr)
    (writes : instr.target? = some (.ofLocal position)) :
    ∃ type, body.localType position = .ok type :=
  exists_localType ((inOrder.instrInOrder here).target_inRange writes)

/-- The local that receives a reference is the one that had it, or the target of
the instruction. -/
theorem Hands.receiver_cases {instr : Instr} {holder receiver : Nat}
    (hands : Hands instr holder receiver) :
    (receiver = holder ∧ (holder : Int) ∉ instr.defs) ∨
      (instr.target? = some (.ofLocal receiver) ∧
        ∀ result, (holder : Int) ∈ instr.uses result) := by
  cases hands with
  | keeps kept => exact .inl ⟨rfl, kept⟩
  | copies =>
      exact .inr ⟨rfl, Instr.root_mem_uses (.ofLocal holder) List.mem_cons_self⟩
  | reborrows _ _ _ rooted =>
      rw [← rooted]
      exact .inr ⟨rfl, Instr.root_mem_uses _ List.mem_cons_self⟩
  | packs _ _ _ packed =>
      exact .inr ⟨rfl, Instr.root_mem_uses (.ofLocal holder) (List.mem_map_of_mem packed)⟩

/-- The type of each holder has a lifetime that the loan outlives. -/
theorem InOrder.outlasts_of_carried (inOrder : body.InOrder program)
    (usesParameters : program.FieldsUseParameters) {graph : OutlivesGraph}
    (found : body.outlivesGraph = .ok graph) {label holder : Nat} {loan : Loan}
    (created : body.loanAt? loan.label = some loan)
    (carried : body.Carried loan.label label holder) :
    ∃ type, body.localType holder = .ok type ∧
      ∃ lifetime ∈ type.lifetimes, graph.Outlasts loan.lifetime lifetime := by
  induction carried with
  | made borrows _ =>
      rcases loanAt?_eq_some.mp created with ⟨_, target, _, mutability, pointee, here, typed⟩
      have sameInstr := Option.some.inj (borrows.symm.trans here)
      rw [← (Instr.assign.inj sameInstr).1, typeOf_ofLocal] at typed
      exact ⟨_, typed, loan.lifetime, List.mem_cons_self, .refl _⟩
  | @handed label following holder receiver instr _ here hands _ inductionHypothesis =>
      rcases inductionHypothesis with ⟨giving, giver, middle, occurs, outlasts⟩
      have taker : ∃ receiving, body.localType receiver = .ok receiving := by
        rcases hands.receiver_cases with ⟨same, _⟩ | ⟨writes, _⟩
        · rw [same]
          exact ⟨giving, giver⟩
        · exact inOrder.localType_natCast here writes
      rcases taker with ⟨receiving, taker⟩
      rcases inOrder.passes_of_hands usesParameters found here hands giver taker middle occurs with
        ⟨short, inReceiving, rest⟩
      exact ⟨receiving, taker, short, inReceiving, outlasts.trans rest⟩

/-! ## The loan stays active -/

/-- If the receiver of a reference is live afterwards, its giver is live
before. -/
theorem InOrder.live_of_hands (inOrder : body.InOrder program) {flow : Flow}
    (found : body.flow = .ok flow) {label following holder receiver : Nat} {instr : Instr}
    (reached : body.Reachable label) (here : body.instr? label = some instr)
    (hands : Hands instr holder receiver) (step : body.Edge label following)
    (live : receiver ∈ (body.liveness flow).liveAt following) :
    holder ∈ (body.liveness flow).liveAt label := by
  rcases hands.receiver_cases with ⟨same, kept⟩ | ⟨_, reads⟩
  · rw [same] at live
    exact inOrder.live_of_live_after found reached here step live kept
  · exact inOrder.live_of_uses found reached here (reads _)

namespace Accepted

variable {analysis : Analysis}

theorem live_of_hands (accepted : body.Accepted analysis) (inOrder : body.InOrder program)
    {label following holder receiver : Nat} {instr : Instr} (reached : body.Reachable label)
    (here : body.instr? label = some instr) (hands : Hands instr holder receiver)
    (step : body.Edge label following) (live : receiver ∈ analysis.liveness.liveAt following) :
    holder ∈ analysis.liveness.liveAt label := by
  rw [accepted.liveness] at live ⊢
  exact inOrder.live_of_hands accepted.flow reached here hands step live

/-- Where a holder is live, the loan is alive. -/
theorem isAliveAt_of_carried (accepted : body.Accepted analysis) (inOrder : body.InOrder program)
    (usesParameters : program.FieldsUseParameters) {label holder : Nat} {loan : Loan}
    (created : body.loanAt? loan.label = some loan)
    (carried : body.Carried loan.label label holder) (reached : body.Reachable loan.label)
    (live : holder ∈ analysis.liveness.liveAt label) :
    analysis.lifetimes.isAliveAt loan.lifetime label = true := by
  rcases inOrder.outlasts_of_carried usesParameters accepted.graph created carried with
    ⟨type, declared, lifetime, occurs, outlasts⟩
  rcases localType_eq_ok.mp declared with ⟨entry, isLocal, rfl⟩
  rw [memberAt_natCast] at isLocal
  have below := Flow.lt_size_of_reachable accepted.flow (carried.reachable reached)
  rw [Flow.size_eq accepted.flow] at below
  exact (accepted.isAliveAt_label_iff loan.lifetime below).mpr
    ⟨lifetime, outlasts, .inr ⟨holder, live, entry, isLocal, occurs⟩⟩

/-- The loan of a reference with a live holder arrives. -/
theorem arrives_of_carried (accepted : body.Accepted analysis) (inOrder : body.InOrder program)
    (usesParameters : program.FieldsUseParameters) {label holder : Nat} {loan : Loan}
    (created : body.loanAt? loan.label = some loan)
    (carried : body.Carried loan.label label holder) (reached : body.Reachable loan.label)
    (live : holder ∈ analysis.liveness.liveAt label) :
    body.Arrives analysis.flow analysis.lifetimes loan label := by
  have known := (mem_loans_iff loan).mpr created
  induction carried with
  | made _ step => exact arrives_of_created accepted.flow known reached step
  | handed before here hands step inductionHypothesis =>
      have reachedBefore := before.reachable reached
      have liveBefore := accepted.live_of_hands inOrder reachedBefore here hands step live
      have alive := accepted.isAliveAt_of_carried inOrder usesParameters created before reached
        liveBefore
      exact (inductionHypothesis liveBefore).next accepted.flow known alive step

/-- The loan of a reference with a live holder is active. -/
theorem mem_loansAt_of_carried (accepted : body.Accepted analysis)
    (inOrder : body.InOrder program) (usesParameters : program.FieldsUseParameters)
    {label holder : Nat} {loan : Loan} (created : body.loanAt? loan.label = some loan)
    (carried : body.Carried loan.label label holder) (reached : body.Reachable loan.label)
    (live : holder ∈ analysis.liveness.liveAt label) : loan ∈ analysis.loansAt label := by
  apply (accepted.mem_loansAt_iff loan label).mpr
  refine ⟨(mem_loans_iff loan).mpr created, ?_, ?_⟩
  · exact accepted.arrives_of_carried inOrder usesParameters created carried reached live
  · exact accepted.isAliveAt_of_carried inOrder usesParameters created carried reached live

end Accepted

/-! ## The holder is not the storage on loan -/

/-- A local does not receive a reference into its own storage: the type of the
reference would have to be a part of itself. -/
theorem InOrder.root_ne_of_borrow (inOrder : body.InOrder program) {graph : OutlivesGraph}
    (found : body.outlivesGraph = .ok graph) {label holder : Nat} {mutability : Mutability}
    {place : Place} {next : Int}
    (here : body.instr? label = some (.assign (.ofLocal holder) (.borrow mutability place) next))
    (direct : place.hasDeref = false) : place.root ≠ holder := by
  intro same
  rcases exists_instrDemands inOrder found here with ⟨before, after, demanded, _⟩
  rcases borrowDemands_eq_ok demanded with
    ⟨lifetime, inner, pointee, placeType, _, middle, typed, placeTyped, _, unified, _⟩
  rw [typeOf_ofLocal] at typed
  rcases bind_eq_ok.mp placeTyped with ⟨rootType, rootTyped, walked⟩
  rw [same, typed] at rootTyped
  rw [← Except.ok.inj rootTyped] at walked
  rcases place with ⟨root, path⟩
  cases path with
  | nil =>
      rw [← Except.ok.inj walked] at unified
      exact Ty.matching_borrow_self_ne_none pointee lifetime inner (Collected.unify_eq_ok unified).1
  | cons step rest =>
      cases step with
      | deref => simp [Place.hasDeref, Step.isDeref] at direct
      | field index =>
          rcases bind_eq_ok.mp walked with ⟨_, stepped, _⟩
          simp [stepType] at stepped

/-- No holder of a reference into a local's own storage is that local.  It would
have been written while the loan was active. -/
theorem Accepted.root_ne_of_carried {analysis : Analysis} (accepted : body.Accepted analysis)
    (inOrder : body.InOrder program) (usesParameters : program.FieldsUseParameters)
    {label holder : Nat} {loan : Loan} (created : body.loanAt? loan.label = some loan)
    (direct : loan.place.hasDeref = false)
    (carried : body.Carried loan.label label holder) (reached : body.Reachable loan.label)
    (live : holder ∈ analysis.liveness.liveAt label) : loan.place.root ≠ holder := by
  induction carried with
  | made borrows _ =>
      rcases loanAt?_eq_some.mp created with ⟨_, target, next, _, _, here, _⟩
      have sameTarget := (Instr.assign.inj (Option.some.inj (borrows.symm.trans here))).1
      rw [← sameTarget] at here
      exact inOrder.root_ne_of_borrow accepted.graph here direct
  | @handed label following holder receiver instr before here hands step inductionHypothesis =>
      have reachedBefore := before.reachable reached
      have liveBefore := accepted.live_of_hands inOrder reachedBefore here hands step live
      rcases hands.receiver_cases with ⟨same, _⟩ | ⟨writes, _⟩
      · rw [same]
        exact inductionHypothesis liveBefore
      · intro same
        have active := accepted.mem_loansAt_of_carried inOrder usesParameters created before
          reached liveBefore
        rcases accepted.aliasing reachedBefore here with ⟨loc, passed⟩
        have undisturbed := target_of_checkActive passed writes active
        have stored := (loan.place.isStoredIn_ofLocal receiver).mpr ⟨same, direct⟩
        simp [writeDisturbs, stored] at undisturbed

/-! ## Conflicts -/

/-- While a reference may still be used, its loan is active and no instruction
conflicts with it, with one exception: the function may return although the
reference points into one of its temporaries. -/
theorem conflicts_with_carried_loan_iff {report : Report}
    (reported : body.report [] = .ok report) (clean : report.violation? = none)
    (declared : body.program = some program) (usesParameters : program.FieldsUseParameters)
    {origin first label holder : Nat} {mutability : Mutability} {place : Place} {next : Int}
    (reached : body.Reachable origin)
    (borrows : body.instr? origin =
      some (.assign (.ofLocal first) (.borrow mutability place) next))
    (carried : body.Carried origin label holder)
    (live : holder ∈ report.analysis.liveness.liveAt label) {instr : Instr}
    (here : body.instr? label = some instr) :
    ∃ loan ∈ report.analysis.loansAt label, loan.label = origin ∧ loan.place = place ∧
      loan.mutability = mutability ∧
      (body.Conflicts loan instr ↔ instr = .ret ∧ place.hasDeref = false ∧
        body.kindOf? place.root = some .temporary) := by
  have accepted := accepted_of_report reported clean
  rcases accepted.valid.inOrder with ⟨other, inOrder⟩
  have sameProgram : other = program := Option.some.inj (inOrder.declared.symm.trans declared)
  rw [sameProgram] at inOrder
  rcases exists_instrDemands inOrder accepted.graph borrows with ⟨_, _, demanded, _⟩
  rcases borrowDemands_eq_ok demanded with ⟨lifetime, inner, pointee, _, _, _, typed, _⟩
  let loan : Loan := { label := origin, place, mutability, lifetime }
  have created : body.loanAt? loan.label = some loan :=
    loanAt?_eq_some.mpr ⟨rfl, _, next, inner, pointee, borrows, typed⟩
  have active := accepted.mem_loansAt_of_carried inOrder usesParameters created carried reached live
  rcases accepted.aliasing (carried.reachable reached) here with ⟨loc, passed⟩
  refine ⟨loan, active, rfl, rfl, rfl, ?_⟩
  rw [conflicts_iff_of_checkActive passed active]
  constructor
  · rintro ⟨rfl, direct⟩
    have rooted : inRange body.locals.length place.root = true :=
      (inOrder.instrInOrder borrows).operand_inRange List.mem_cons_self
    rcases (inOrder.unguarded_of_checkActive passed active rooted direct).root with
      temporary | ⟨isResult, _⟩
    · exact ⟨rfl, direct, temporary⟩
    · rw [accepted.liveness] at live
      have returned := inOrder.returnLocal?_of_live accepted.flow here live
      rw [← accepted.liveness] at live
      have different := accepted.root_ne_of_carried inOrder usesParameters created direct carried
        reached live
      rcases (inRange_iff _ _).mp rooted with ⟨position, root, _⟩
      have alsoReturned := (inOrder.returnLocal?_iff position).mpr (root ▸ isResult)
      have same : holder = position := Option.some.inj (returned.symm.trans alsoReturned)
      exact absurd (root.trans (congrArg Int.ofNat same.symm)) different
  · rintro ⟨returns, direct, _⟩
    exact ⟨returns, direct⟩

/-- A program with a structure that wraps a reference. -/
def wrapProgram : Program :=
  .ofDeclarations
    [{ name := "Wrap"
       parameters := [.named "p"]
       fields := [{ name := "inner", type := .borrow (.named "p") .shared .int }] }] []

/-- A body that reborrows a reference to a local, packs it into a structure and
reads through the structure. -/
def packedReborrow : Body :=
  { name := "packed"
    program := some wrapProgram
    locals := [
      { name := "out", kind := .result, type := .int },
      { name := "x", type := .int },
      { name := "p", type := .borrow (.inferred 1) .shared .int },
      { name := "q", type := .borrow (.inferred 2) .shared .int },
      { name := "w", type := .struct "Wrap" [.inferred 3] }]
    code := [
      { instr := some (.assign (.ofLocal 1) (.const 1) 1) },
      { instr := some (.assign (.ofLocal 2) (.borrow .shared (.ofLocal 1)) 2) },
      { instr := some (.assign (.ofLocal 3) (.borrow .shared (Place.ofLocal 2).deref) 3) },
      { instr := some (.assign (.ofLocal 4) (.make "Wrap" [3]) 4) },
      { instr := some (.assign (.ofLocal 0) (.use ((Place.ofLocal 4).field 0).deref) 5) },
      { instr := some .ret }] }

/-- The read through the structure happens under the loan of the local, and does
not conflict with it. -/
theorem packedReborrow_respects_loan :
    ∃ report, packedReborrow.report [] = .ok report ∧ report.violation? = none ∧
      ∃ loan ∈ report.analysis.loansAt 4, loan.label = 1 ∧ loan.place = .ofLocal 1 ∧
        ¬ packedReborrow.Conflicts loan
          (.assign (.ofLocal 0) (.use ((Place.ofLocal 4).field 0).deref) 5) := by
  have evaluated : packedReborrow.acceptedWith
      (fun report => (report.analysis.liveness.liveAt 4).contains 4) = true := by
    decide +kernel
  rcases exists_report_of_acceptedWith evaluated with ⟨report, reported, clean, live⟩
  refine ⟨report, reported, clean, ?_⟩
  have usesParameters : wrapProgram.FieldsUseParameters := by
    unfold Program.FieldsUseParameters
    decide
  have reached : packedReborrow.Reachable 1 := ⟨[0], .next .here ⟨_, rfl, by decide⟩⟩
  have first : packedReborrow.Carried 1 2 2 := .made rfl ⟨_, rfl, by decide⟩
  have second : packedReborrow.Carried 1 3 3 :=
    .handed first rfl (.reborrows 3 .shared 3 rfl) ⟨_, rfl, by decide⟩
  have third : packedReborrow.Carried 1 4 4 :=
    .handed second rfl (.packs 4 "Wrap" 4 (by decide)) ⟨_, rfl, by decide⟩
  rcases conflicts_with_carried_loan_iff reported clean rfl usesParameters reached rfl third
    (by simpa using live) rfl with ⟨loan, active, label, place, _, conflicts⟩
  refine ⟨loan, active, label, place, ?_⟩
  rw [conflicts]
  simp

/-- A body that returns a copy of a reference to one of its temporaries. -/
def returnedTemporary : Body :=
  { name := "dangling"
    program := some {}
    locals := [
      { name := "out", kind := .result, type := .borrow (.named "a") .shared .int },
      { name := "x", type := .int },
      { name := "p", type := .borrow (.inferred 1) .shared .int }]
    code := [
      { instr := some (.assign (.ofLocal 1) (.const 1) 1) },
      { instr := some (.assign (.ofLocal 2) (.borrow .shared (.ofLocal 1)) 2) },
      { instr := some (.assign (.ofLocal 0) (.use (.ofLocal 2)) 3) },
      { instr := some .ret }]
    generics := [.named "a"] }

/-- The body is accepted although it returns while the reference it returns
borrows a temporary. -/
theorem returnedTemporary_conflicts :
    ∃ report, returnedTemporary.report [] = .ok report ∧ report.violation? = none ∧
      returnedTemporary.Carried 1 3 0 ∧ 0 ∈ report.analysis.liveness.liveAt 3 ∧
      returnedTemporary.instr? 3 = some .ret ∧
      ∃ loan ∈ report.analysis.loansAt 3, loan.label = 1 ∧
        returnedTemporary.Conflicts loan .ret := by
  have evaluated : returnedTemporary.acceptedWith (fun report =>
      (report.analysis.liveness.liveAt 3).contains 0 &&
        (report.analysis.loansAt 3).any fun loan =>
          loan.label == 1 && !loan.place.hasDeref) = true := by
    decide +kernel
  rcases exists_report_of_acceptedWith evaluated with ⟨report, reported, clean, found⟩
  rcases Bool.and_eq_true_iff.mp found with ⟨live, borrowed⟩
  rcases List.any_eq_true.mp borrowed with ⟨loan, active, isLoan⟩
  rcases Bool.and_eq_true_iff.mp isLoan with ⟨label, direct⟩
  have made : returnedTemporary.Carried 1 2 2 := .made rfl ⟨_, rfl, by decide⟩
  have copied : returnedTemporary.Carried 1 3 0 :=
    .handed made rfl (.copies 2 0 3) ⟨_, rfl, by decide⟩
  refine ⟨report, reported, clean, copied, by simpa using live, rfl, loan, active, ?_, ?_⟩
  · simpa using label
  · exact .returned rfl (by simpa using direct)

end Body
end BorrowChecker
