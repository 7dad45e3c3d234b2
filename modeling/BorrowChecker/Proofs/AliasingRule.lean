import BorrowChecker.Proofs.ValidBodies
import BorrowChecker.Rules.Aliasing
import BorrowChecker.Rules.Initialized

namespace BorrowChecker

/-!
What the aliasing rule demands of an instruction.

The ways in which an instruction can conflict with a loan are listed without
reference to the rule, and the tests of the rule are turned into conditions on
active loans.  An instruction that passes conflicts with no active loan, with
one exception: a return does not look at loans of temporaries, and of the result
it sees no more than a read would.
-/

namespace Scan

theorem ask_eq_ok {α : Type} {question : Except Fault α} {answer : α} :
    ask question = .ok answer ↔ question = .ok answer := by
  cases question <;> simp [ask]

theorem objectToLoan_eq_ok {loans : List Loan} {condition : Loan → Bool} {loc : Loc}
    {complaint : Loan → Complaint} :
    objectToLoan loans condition loc complaint = .ok () ↔
      ∀ loan ∈ loans, condition loan = false := by
  unfold objectToLoan
  cases found : loans.find? condition with
  | some loan =>
      have holds := List.find?_some found
      have listed := List.mem_of_find?_eq_some found
      simp only [reduceCtorEq, false_iff]
      intro none
      exact Bool.false_ne_true ((none loan listed).symm.trans holds)
  | none =>
      simp only [true_iff]
      intro loan listed
      simpa using List.find?_eq_none.mp found loan listed

end Scan

theorem Mutability.ne_unique_iff (mutability : Mutability) :
    (mutability == .unique) = false ↔ mutability = .shared := by
  cases mutability <;> decide

/-- A place lies in the storage of a local if it starts there and follows no
pointer. -/
theorem Place.isStoredIn_ofLocal (place : Place) (position : Int) :
    place.isStoredIn (.ofLocal position) = true ↔
      place.root = position ∧ place.hasDeref = false := by
  simp [isStoredIn, isWithin, ofLocal, hasDeref]

/-- Whether an instruction borrows its operand instead of reading it. -/
def Instr.isBorrow : Instr → Bool
  | .assign _ source _ => source.isBorrow
  | _ => false

namespace Body

/-! ## Conflicts -/

/-- The ways in which an instruction conflicts with a loan. -/
inductive Conflicts (body : Body) (loan : Loan) (instr : Instr) : Prop where
  | written (target : Place) (writes : instr.target? = some target)
      (disturbs : target.isWithin loan.place = true ∨ loan.place.isStoredIn target = true)
  | read (place : Place) (reading : instr.isBorrow = false) (reads : place ∈ body.reads instr)
      (overlap : place.overlaps loan.place = true)
      (consuming : loan.mutability = .unique ∨ body.isCopyable place ≠ .ok true)
  | borrowed (target place : Place) (mutability : Mutability) (next : Int)
      (borrows : instr = .assign target (.borrow mutability place) next)
      (overlap : place.overlaps loan.place = true)
      (exclusive : loan.mutability = .unique ∨ mutability = .unique)
  | ended (next : Int) (ends : instr = .deinit loan.place.root next)
      (direct : loan.place.hasDeref = false)
  | returned (returns : instr = .ret) (direct : loan.place.hasDeref = false)

/-- A read that passes meets only shared loans, and copies what they borrow. -/
theorem shared_of_checkUse {body : Body} {loc : Loc} {active : List Loan} {place : Place}
    (passed : body.checkUse loc active place = .ok ()) {loan : Loan} (listed : loan ∈ active)
    (overlap : place.overlaps loan.place = true) :
    loan.mutability = .shared ∧ body.isCopyable place = .ok true := by
  unfold checkUse at passed
  rcases bind_eq_ok.mp passed with ⟨copyable, asked, passed⟩
  rcases bind_eq_ok.mp passed with ⟨_, _, conflicts⟩
  have harmless := Scan.objectToLoan_eq_ok.mp conflicts loan listed
  rw [overlap, Bool.true_and, Bool.or_eq_false_iff, Mutability.ne_unique_iff] at harmless
  have copied : copyable = true := by simpa using harmless.2
  rw [copied] at asked
  exact ⟨harmless.1, Scan.ask_eq_ok.mp asked⟩

variable {body : Body} {loc : Loc} {active : List Loan} {instr : Instr}

/-- An instruction that passes does not write what is on loan. -/
theorem target_of_checkActive (passed : body.checkActive loc active instr = .ok ())
    {target : Place} (writes : instr.target? = some target) {loan : Loan}
    (listed : loan ∈ active) : writeDisturbs target loan = false := by
  cases instr with
  | assign place source next =>
      have isTarget : place = target := by simpa [Instr.target?] using writes
      subst isTarget
      cases source <;>
        · rcases bind_eq_ok.mp passed with ⟨_, _, written⟩
          exact Scan.objectToLoan_eq_ok.mp written loan listed
  | call function arguments place next =>
      have isTarget : place = target := by simpa [Instr.target?] using writes
      subst isTarget
      rcases bind_eq_ok.mp passed with ⟨_, _, written⟩
      exact Scan.objectToLoan_eq_ok.mp written loan listed
  | deinit | goto | branch | ret => simp [Instr.target?] at writes

/-- Whatever an instruction reads is tested as a read. -/
theorem checkUse_of_checkActive (passed : body.checkActive loc active instr = .ok ())
    (reading : instr.isBorrow = false) {place : Place} (reads : place ∈ body.reads instr) :
    body.checkUse loc active place = .ok () := by
  cases instr with
  | assign target source next =>
      have operand : place ∈ source.operands := by simpa [Body.reads, Instr.operands] using reads
      cases source with
      | borrow mutability borrowed => simp [Instr.isBorrow, Rvalue.isBorrow] at reading
      | use | const | unit | unary | binary | make | missing =>
          rcases bind_eq_ok.mp passed with ⟨_, uses, _⟩
          exact forM_eq_ok.mp uses place operand
  | call function arguments target next =>
      have operand : place ∈ arguments.map Place.ofLocal := by
        simpa [Body.reads, Instr.operands] using reads
      rcases bind_eq_ok.mp passed with ⟨_, uses, _⟩
      exact forM_eq_ok.mp uses place operand
  | branch condition yes no =>
      have isCondition : place = .ofLocal condition := by
        simpa [Body.reads, Instr.operands] using reads
      rw [isCondition]
      exact passed
  | ret =>
      rcases bind_eq_ok.mp passed with ⟨_, _, passed⟩
      rcases bind_eq_ok.mp passed with ⟨result, asked, used⟩
      have found := returnLocal_eq_ok.mp (Scan.ask_eq_ok.mp asked)
      have isResult : place = .ofLocal result := by
        simpa [Body.reads, Instr.operands, found] using reads
      rw [isResult]
      exact used
  | deinit | goto => simp [Body.reads, Instr.operands] at reads

/-- An instruction that passes conflicts with no active loan, unless it returns
while storage that is not behind a pointer is on loan. -/
theorem conflicts_iff_of_checkActive (passed : body.checkActive loc active instr = .ok ())
    {loan : Loan} (listed : loan ∈ active) :
    body.Conflicts loan instr ↔ instr = .ret ∧ loan.place.hasDeref = false := by
  constructor
  · rintro (⟨target, writes, disturbs⟩ | ⟨place, reading, reads, overlap, consuming⟩ |
      ⟨target, place, mutability, next, rfl, overlap, exclusive⟩ | ⟨next, rfl, direct⟩ |
      ⟨returns, direct⟩)
    · have undisturbed := target_of_checkActive passed writes listed
      simp only [writeDisturbs, Bool.or_eq_false_iff] at undisturbed
      simp [undisturbed] at disturbs
    · rcases shared_of_checkUse
        (checkUse_of_checkActive passed reading reads) listed overlap with ⟨shared, copied⟩
      simp [shared, copied] at consuming
    · rcases bind_eq_ok.mp passed with ⟨_, borrow, _⟩
      have harmless := Scan.objectToLoan_eq_ok.mp borrow loan listed
      rw [overlap, Bool.true_and, Bool.or_eq_false_iff, Mutability.ne_unique_iff,
        Mutability.ne_unique_iff] at harmless
      simp [harmless] at exclusive
    · have outside := Scan.objectToLoan_eq_ok.mp passed loan listed
      have inside := (loan.place.isStoredIn_ofLocal loan.place.root).mpr ⟨rfl, direct⟩
      exact absurd (inside.symm.trans outside) (by simp)
    · exact ⟨returns, direct⟩
  · rintro ⟨returns, direct⟩
    exact .returned returns direct

/-! ## Loans that a return does not see -/

/-- A loan of a local's own storage that returning does not object to. -/
structure Unguarded (body : Body) (loan : Loan) : Prop where
  direct : loan.place.hasDeref = false
  root : body.kindOf? loan.place.root = some .temporary ∨
    (body.kindOf? loan.place.root = some .result ∧ loan.mutability = .shared ∧
      body.isCopyable (.ofLocal loan.place.root) = .ok true)

/-- Among loans of storage, a return passes only those that are unguarded. -/
theorem InOrder.unguarded_of_checkActive {program : Program} (inOrder : body.InOrder program)
    (passed : body.checkActive loc active .ret = .ok ()) {loan : Loan} (listed : loan ∈ active)
    (rooted : inRange body.locals.length loan.place.root = true)
    (direct : loan.place.hasDeref = false) : body.Unguarded loan := by
  rcases (inRange_iff _ _).mp rooted with ⟨position, root, below⟩
  have kind : body.kindOf? loan.place.root = some (body.locals.get ⟨position, below⟩).kind := by
    rw [root, kindOf?, memberAt_natCast, List.getElem?_eq_getElem below]
    rfl
  refine ⟨direct, ?_⟩
  cases found : (body.locals.get ⟨position, below⟩).kind with
  | temporary => exact .inl (kind.trans (congrArg some found))
  | parameter =>
      rcases bind_eq_ok.mp passed with ⟨_, released, _⟩
      have isParameter : position ∈ body.parameters :=
        (mem_localsOfKind_iff _ _ _).mpr (by rw [← root, kind, found])
      have outside := Scan.objectToLoan_eq_ok.mp
        (forM_eq_ok.mp released position isParameter) loan listed
      have inside := (loan.place.isStoredIn_ofLocal position).mpr ⟨root, direct⟩
      exact absurd (inside.symm.trans outside) (by simp)
  | result =>
      have isResult : body.kindOf? loan.place.root = some .result := by rw [kind, found]
      have returned := (inOrder.returnLocal?_iff position).mpr (root ▸ isResult)
      have reads : Place.ofLocal loan.place.root ∈ body.reads .ret := by
        simp [Body.reads, Instr.operands, returned, root]
      have overlap : (Place.ofLocal loan.place.root).overlaps loan.place = true := by
        simp [Place.overlaps, Place.isWithin, Place.ofLocal]
      exact .inr ⟨isResult, shared_of_checkUse
        (checkUse_of_checkActive passed rfl reads) listed overlap⟩

end Body
end BorrowChecker
