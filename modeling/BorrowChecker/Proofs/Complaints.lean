import BorrowChecker.Proofs.AliasingRule
import BorrowChecker.Proofs.SignatureRule

namespace BorrowChecker

/-!
What can stop a rule at an instruction.

A rule that does not pass either objects or asks a question that has no answer.
The objections of all rules are about places that the instruction mentions, about
places these are reached through, and about loans that are active.  The questions
are whether such a place can be copied or written, and which local holds the
result.  Stated once for all rules, this says when a complaint can be put into
words and on what its wording depends.
-/

namespace Scan

theorem ask_eq_error {α : Type} {question : Except Fault α} {stop : Stop}
    (stopped : Scan.ask question = .error stop) :
    ∃ fault, question = .error fault ∧ stop = .fault fault := by
  cases question with
  | ok answer => simp [ask] at stopped
  | error fault => exact ⟨fault, rfl, (Except.error.inj stopped).symm⟩

theorem objectIf_eq_error {condition : Bool} {loc : Loc} {complaint : Complaint} {stop : Stop}
    (stopped : Scan.objectIf condition loc complaint = .error stop) :
    stop = .complaint loc complaint := by
  unfold objectIf at stopped
  split at stopped
  · exact (Except.error.inj stopped).symm
  · simp at stopped

theorem objectToLoan_eq_error {loans : List Loan} {condition : Loan → Bool} {loc : Loc}
    {complaint : Loan → Complaint} {stop : Stop}
    (stopped : Scan.objectToLoan loans condition loc complaint = .error stop) :
    ∃ loan ∈ loans, stop = .complaint loc (complaint loan) := by
  unfold objectToLoan at stopped
  split at stopped
  · rename_i loan found
    exact ⟨loan, List.mem_of_find?_eq_some found, (Except.error.inj stopped).symm⟩
  · simp at stopped

end Scan

namespace Complaint

/-- The places that the wording of a complaint names.  Locals are named like places. -/
def places : Complaint → List Place
  | useOfUninit place => [place]
  | writeIntoUninit target owner => [target, owner]
  | writeThroughUninit target pointer => [target, pointer]
  | mutBorrowOfShared place => [place]
  | sharedWrite target => [target]
  | missingOutlives _ _ _ => []
  | moveOutOfBorrow place => [place]
  | useWhileBorrowed place _ => [place]
  | borrowConflict place _ _ => [place]
  | assignBorrowed target _ => [target]
  | callDestBorrowed target _ => [target]
  | deinitBorrowed victim _ => [.ofLocal victim]
  | returnBorrowedParam parameter _ => [.ofLocal parameter]

def loan? : Complaint → Option Loan
  | useWhileBorrowed _ loan => some loan
  | borrowConflict _ _ loan => some loan
  | assignBorrowed _ loan => some loan
  | callDestBorrowed _ loan => some loan
  | deinitBorrowed _ loan => some loan
  | returnBorrowedParam _ loan => some loan
  | _ => none

end Complaint

/-- The wording of a complaint depends on the names of what it mentions and on nothing
else. -/
theorem Body.word_congr {first second : Body} {complaint : Complaint}
    (sameName : second.name = first.name) (samePlace : second.describe = first.describe)
    (sameLocal : second.localName = first.localName)
    (sameLoan : ∀ loan, complaint.loan? = some loan →
      second.describeLoan loan = first.describeLoan loan) :
    second.word complaint = first.word complaint := by
  cases complaint with
  | useWhileBorrowed | borrowConflict | assignBorrowed | callDestBorrowed | deinitBorrowed
  | returnBorrowedParam => simp only [word, samePlace, sameLocal, sameLoan _ rfl]
  | useOfUninit | writeIntoUninit | writeThroughUninit | mutBorrowOfShared | sharedWrite
  | missingOutlives | moveOutOfBorrow => simp only [word, samePlace, sameName]

namespace Place

/-- The pointer that a place lies behind is on the way to it. -/
theorem isWithin_derefBase {place pointer : Place} (found : place.derefBase? = some pointer) :
    place.isWithin pointer = true := by
  have shortened : ∀ path front, beforeLastDeref? path = some front → front <+: path := by
    intro path
    induction path with
    | nil => simp [beforeLastDeref?]
    | cons step rest inductionHypothesis =>
        intro front here
        unfold beforeLastDeref? at here
        split at here
        · rename_i inner deeper
          rw [← Option.some.inj here, List.cons_prefix_cons]
          exact ⟨rfl, inductionHypothesis inner deeper⟩
        · split at here
          · rw [← Option.some.inj here]
            exact List.nil_prefix
          · simp at here
  rcases Option.map_eq_some_iff.mp found with ⟨front, here, rfl⟩
  exact (isWithin_iff _ _).mpr ⟨rfl, shortened _ _ here⟩

end Place

namespace Body

variable {body : Body} {loc : Loc} {instr : Instr} {stop : Stop}

theorem mem_of_mem_writtenOwners {places : List Place} {owner : Place}
    (listed : owner ∈ writtenOwners places) : owner ∈ places := by
  fun_induction writtenOwners places with
  | case1 place next outer index last inductionHypothesis =>
      rcases List.mem_cons.mp listed with rfl | further
      · simp
      · exact List.mem_cons_of_mem _ (inductionHypothesis further)
  | case2 => simp at listed
  | case3 => simp at listed

/-- The places that an instruction mentions: those it reads and writes, and as whole
locals the ones whose storage it ends and the parameters, which a return looks at. -/
def mentioned (body : Body) (instr : Instr) : List Place :=
  instr.places ++ body.reads instr ++ instr.defs.map Place.ofLocal ++
    body.parameters.map fun (parameter : Nat) => Place.ofLocal parameter

/-- What stops a rule at an instruction. -/
inductive Stops (body : Body) (loc : Loc) (active : List Loan) (instr : Instr) : Stop → Prop where
  | objection {complaint : Complaint}
      (places : ∀ place ∈ complaint.places, ∃ whole ∈ body.mentioned instr,
        whole.isWithin place = true)
      (loan : ∀ loan, complaint.loan? = some loan → loan ∈ active) :
      Stops body loc active instr (.complaint loc complaint)
  | copyable {place : Place} {fault : Fault} (known : place ∈ body.mentioned instr)
      (unanswered : body.isCopyable place = .error fault) :
      Stops body loc active instr (.fault fault)
  | writable {place : Place} {fault : Fault} (known : place ∈ body.mentioned instr)
      (unanswered : body.isWritable place = .error fault) :
      Stops body loc active instr (.fault fault)
  | result {fault : Fault} (unanswered : body.returnLocal = .error fault) :
      Stops body loc active instr (.fault fault)

namespace Stops

variable {active : List Loan}

/-- An objection to one mentioned place and possibly to an active loan. -/
theorem ofPlace {complaint : Complaint} {place : Place} (known : place ∈ body.mentioned instr)
    (names : complaint.places = [place])
    (loan : ∀ loan, complaint.loan? = some loan → loan ∈ active) :
    body.Stops loc active instr (.complaint loc complaint) := by
  refine .objection ?_ loan
  intro other listed
  rw [names, List.mem_singleton] at listed
  exact ⟨place, known, listed ▸ place.isWithin_refl⟩

/-- An objection to a mentioned place and one that it is reached through. -/
theorem ofPair {complaint : Complaint} {target outer : Place}
    (known : target ∈ body.mentioned instr) (around : target.isWithin outer = true)
    (names : complaint.places = [target, outer]) (noLoan : complaint.loan? = none) :
    body.Stops loc active instr (.complaint loc complaint) := by
  refine .objection ?_ (by simp [noLoan])
  intro other listed
  rw [names, List.mem_cons, List.mem_singleton] at listed
  rcases listed with rfl | rfl
  · exact ⟨other, known, other.isWithin_refl⟩
  · exact ⟨target, known, around⟩

end Stops

theorem target_mem_mentioned (body : Body) {target : Place} (writes : instr.target? = some target) :
    target ∈ body.mentioned instr := by
  simp [mentioned, Instr.places, writes]

theorem operand_mem_mentioned {place : Place} (reads : place ∈ instr.operands) :
    place ∈ body.mentioned instr := by
  simp [mentioned, Instr.places, reads]

/-! ## Initialization -/

private theorem stops_of_checkInitializedAt {analysis : Uninitialized} {label : Nat}
    (stopped : body.checkInitializedAt analysis label loc instr = .error stop)
    (active : List Loan) : body.Stops loc active instr stop := by
  rcases bind_eq_error.mp stopped with written | ⟨_, _, read⟩
  · rcases exists_of_forM_eq_error written with ⟨target, writes, stopped⟩
    have known := target_mem_mentioned body (Option.mem_toList.mp writes)
    rcases bind_eq_error.mp stopped with owners | ⟨_, _, pointers⟩
    · rcases exists_of_forM_eq_error owners with ⟨owner, listed, stopped⟩
      rw [Scan.objectIf_eq_error stopped]
      have around := (Place.mem_lineage_iff target owner).mp (mem_of_mem_writtenOwners listed)
      exact .ofPair known around rfl rfl
    · rcases exists_of_forM_eq_error pointers with ⟨pointer, listed, stopped⟩
      rw [Scan.objectIf_eq_error stopped]
      exact .ofPair known (Place.isWithin_derefBase (Option.mem_toList.mp listed)) rfl rfl
  · rcases exists_of_forM_eq_error read with ⟨place, listed, stopped⟩
    rw [Scan.objectIf_eq_error stopped]
    have known : place ∈ body.mentioned instr := by simp [mentioned, listed]
    exact .ofPlace known rfl nofun

/-! ## Mutability -/

private theorem stops_of_checkMutableBorrow
    (stopped : body.checkMutableBorrow loc instr = .error stop)
    (active : List Loan) : body.Stops loc active instr stop := by
  unfold checkMutableBorrow at stopped
  split at stopped
  · rename_i target place next
    have known : place ∈ body.mentioned (.assign target (.borrow .unique place) next) :=
      operand_mem_mentioned List.mem_cons_self
    rcases bind_eq_error.mp stopped with asked | ⟨_, _, objected⟩
    · rcases Scan.ask_eq_error asked with ⟨fault, unanswered, rfl⟩
      exact .writable known unanswered
    · rw [Scan.objectIf_eq_error objected]
      exact .ofPlace known rfl nofun
  · simp at stopped

private theorem stops_of_checkWritableAt {label : Nat}
    (stopped : body.checkWritableAt label loc instr = .error stop) (active : List Loan) :
    body.Stops loc active instr stop := by
  rcases bind_eq_error.mp stopped with borrowed | ⟨_, _, written⟩
  · exact stops_of_checkMutableBorrow borrowed active
  · rcases exists_of_forM_eq_error written with ⟨target, writes, stopped⟩
    have known := target_mem_mentioned body (Option.mem_toList.mp writes)
    rcases bind_eq_error.mp stopped with asked | ⟨_, _, objected⟩
    · rcases Scan.ask_eq_error asked with ⟨fault, unanswered, rfl⟩
      exact .writable known unanswered
    · rw [Scan.objectIf_eq_error objected]
      exact .ofPlace known rfl nofun

/-! ## Aliasing -/

variable {active : List Loan}

theorem stops_of_checkUse {place : Place} (known : place ∈ body.mentioned instr)
    (stopped : body.checkUse loc active place = .error stop) :
    body.Stops loc active instr stop := by
  rcases bind_eq_error.mp stopped with asked | ⟨copyable, _, stopped⟩
  · rcases Scan.ask_eq_error asked with ⟨fault, unanswered, rfl⟩
    exact .copyable known unanswered
  · rcases bind_eq_error.mp stopped with objected | ⟨_, _, objected⟩
    · rw [Scan.objectIf_eq_error objected]
      exact .ofPlace known rfl nofun
    · rcases Scan.objectToLoan_eq_error objected with ⟨loan, listed, rfl⟩
      refine .ofPlace known rfl ?_
      rintro _ ⟨⟩
      exact listed

/-- Objecting to active loans on behalf of one mentioned place. -/
theorem stops_of_objectToLoan {condition : Loan → Bool} {complaint : Loan → Complaint}
    {place : Place} (known : place ∈ body.mentioned instr)
    (names : ∀ loan, (complaint loan).places = [place] ∧ (complaint loan).loan? = some loan)
    (stopped : Scan.objectToLoan active condition loc complaint = .error stop) :
    body.Stops loc active instr stop := by
  rcases Scan.objectToLoan_eq_error stopped with ⟨loan, listed, rfl⟩
  refine .ofPlace known (names loan).1 ?_
  intro other named
  rw [(names loan).2] at named
  exact Option.some.inj named ▸ listed

private theorem stops_of_checkActive (stopped : body.checkActive loc active instr = .error stop) :
    body.Stops loc active instr stop := by
  cases instr with
  | assign target source next =>
      have written : target ∈ body.mentioned (.assign target source next) :=
        target_mem_mentioned body rfl
      have read : ∀ place ∈ source.operands, place ∈ body.mentioned (.assign target source next) :=
        fun place listed => operand_mem_mentioned listed
      cases source with
      | borrow mutability place =>
          rcases bind_eq_error.mp stopped with borrowed | ⟨_, _, disturbed⟩
          · exact stops_of_objectToLoan (read place List.mem_cons_self) (fun _ => ⟨rfl, rfl⟩)
              borrowed
          · exact stops_of_objectToLoan written (fun _ => ⟨rfl, rfl⟩) disturbed
      | use | const | unit | unary | binary | make | missing =>
          rcases bind_eq_error.mp stopped with used | ⟨_, _, disturbed⟩
          · rcases exists_of_forM_eq_error used with ⟨place, listed, stopped⟩
            exact stops_of_checkUse (read place listed) stopped
          · exact stops_of_objectToLoan written (fun _ => ⟨rfl, rfl⟩) disturbed
  | call function arguments target next =>
      rcases bind_eq_error.mp stopped with used | ⟨_, _, disturbed⟩
      · rcases exists_of_forM_eq_error used with ⟨place, listed, stopped⟩
        exact stops_of_checkUse (operand_mem_mentioned listed) stopped
      · exact stops_of_objectToLoan (target_mem_mentioned body rfl) (fun _ => ⟨rfl, rfl⟩) disturbed
  | branch condition yes no =>
      exact stops_of_checkUse (operand_mem_mentioned List.mem_cons_self) stopped
  | deinit victim next =>
      have known : Place.ofLocal victim ∈ body.mentioned (.deinit victim next) := by
        simp [mentioned, Instr.defs]
      exact stops_of_objectToLoan known (fun _ => ⟨rfl, rfl⟩) stopped
  | ret =>
      rcases bind_eq_error.mp stopped with pointed | ⟨_, _, stopped⟩
      · rcases exists_of_forM_eq_error pointed with ⟨parameter, listed, stopped⟩
        have known : Place.ofLocal parameter ∈ body.mentioned .ret :=
          List.mem_append_right _ (List.mem_map_of_mem listed)
        exact stops_of_objectToLoan known (fun _ => ⟨rfl, rfl⟩) stopped
      · rcases bind_eq_error.mp stopped with asked | ⟨position, asked, stopped⟩
        · rcases Scan.ask_eq_error asked with ⟨fault, unanswered, rfl⟩
          exact .result unanswered
        · have isResult := returnLocal_eq_ok.mp (Scan.ask_eq_ok.mp asked)
          have known : Place.ofLocal position ∈ body.mentioned .ret := by
            simp [mentioned, reads, isResult]
          exact stops_of_checkUse known stopped
  | goto next => simp [checkActive] at stopped

/-! ## Families of rules -/

theorem exists_of_scan_eq_error {program : Program} (inOrder : body.InOrder program)
    {labels : List Nat} (inside : ∀ label ∈ labels, label < body.code.length)
    {rule : Nat → Loc → Instr → Scan Unit} (stopped : body.scan labels rule = .error stop) :
    ∃ label ∈ labels, ∃ instr loc, body.instr? label = some instr ∧
      rule label loc instr = .error stop := by
  rcases exists_of_forM_eq_error stopped with ⟨label, listed, stopped⟩
  rcases inOrder.exists_instr (inside label listed) with ⟨instr, here⟩
  rcases exists_loc_of_instr? here with ⟨loc, there⟩
  rw [there] at stopped
  exact ⟨label, listed, instr, loc, here, stopped⟩

/-- A family of rules stops at a reachable instruction, or because the signature
leaves out a demand. -/
theorem Analyzed.stops_of_scan {analysis : Analysis} (analyzed : body.Analyzed analysis)
    {family : Family} (stopped : analysis.scan family = .error stop) :
    (∃ label instr loc, body.Reachable label ∧ body.instr? label = some instr ∧
      body.Stops loc (analysis.loansAt label) instr stop) ∨
    ∃ long short declared, stop = .complaint body.loc (.missingOutlives long short declared) := by
  rcases analyzed.valid.inOrder with ⟨program, inOrder⟩
  have reached : ∀ label ∈ analysis.flow.reachable, body.Reachable label :=
    fun label listed => (Flow.mem_reachable_iff analyzed.flow label).mp listed
  have inside : ∀ label ∈ analysis.flow.reachable, label < body.code.length := fun label listed =>
    Flow.size_eq analyzed.flow ▸ Flow.lt_size_of_reachable analyzed.flow (reached label listed)
  unfold Analysis.scan at stopped
  rw [analyzed.sameBody] at stopped
  cases family with
  | initialization =>
      rcases exists_of_scan_eq_error inOrder inside stopped with
        ⟨label, listed, instr, loc, here, stopped⟩
      exact .inl ⟨label, instr, loc, reached label listed, here,
        stops_of_checkInitializedAt stopped _⟩
  | mutability =>
      rcases exists_of_scan_eq_error inOrder inside stopped with
        ⟨label, listed, instr, loc, here, stopped⟩
      exact .inl ⟨label, instr, loc, reached label listed, here, stops_of_checkWritableAt stopped _⟩
  | lifetimes =>
      rcases analyzed.stop_of_checkSignature stopped with
        ⟨long, _, short, _, declared, isMissing, _⟩
      exact .inr ⟨long, short, declared, isMissing⟩
  | aliasing =>
      rcases exists_of_scan_eq_error inOrder inside stopped with
        ⟨label, listed, instr, loc, here, stopped⟩
      exact .inl ⟨label, instr, loc, reached label listed, here, stops_of_checkActive stopped⟩

end Body
end BorrowChecker
