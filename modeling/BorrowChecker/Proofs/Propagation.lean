import BorrowChecker.Dataflow.Propagation

namespace BorrowChecker

/-!
What propagation achieves.

Two facts carry all uses of the worklist.  When it is empty, the outcome at every
label has arrived at all of its targets: a label whose set grew after it was last
looked at is still queued.  And whatever is true of the sets at the start, is
kept by transfer along an edge and by joining, is true of the sets in the end.
Neither needs the transfer function to be monotone.
-/

namespace IndexSet

variable {bound : Nat}

/-- Every member of one set is a member of the other. -/
def Within (inner outer : IndexSet bound) : Prop :=
  ∀ index, inner.contains index = true → outer.contains index = true

namespace Within

theorem refl (set : IndexSet bound) : set.Within set :=
  fun _ member => member

theorem trans {inner middle outer : IndexSet bound} (first : inner.Within middle)
    (second : middle.Within outer) : inner.Within outer :=
  fun index member => second index (first index member)

theorem union_left (left right : IndexSet bound) : left.Within (left.union right) := by
  intro index member
  simp [member]

theorem union_right (left right : IndexSet bound) : right.Within (left.union right) := by
  intro index member
  simp [member]

theorem union {left right outer : IndexSet bound} (ofLeft : left.Within outer)
    (ofRight : right.Within outer) : (left.union right).Within outer := by
  intro index member
  rw [contains_union, Bool.or_eq_true] at member
  exact member.elim (ofLeft index) (ofRight index)

theorem absent {inner outer : IndexSet bound} (included : inner.Within outer) {index : Nat}
    (outside : outer.contains index = false) : inner.contains index = false := by
  rw [Bool.eq_false_iff] at outside ⊢
  exact fun member => outside (included index member)

end Within

private theorem union_union_self (left right : IndexSet bound) :
    (left.union right).union right = left.union right := by
  apply ext_contains
  intro index
  simp

end IndexSet

namespace Worklist

variable {α : Type}

/-- Marks are determined by the line, so a worklist is. -/
theorem eq_of_waiting_eq {left right : Worklist α} (same : left.waiting = right.waiting) :
    left = right := by
  have sameMarks : left.queued = right.queued := by
    funext element
    rw [Bool.eq_iff_iff, left.inStep.marked, right.inStep.marked, same]
  rcases left with ⟨⟨line, marks⟩, inStep⟩
  rcases right with ⟨⟨otherLine, otherMarks⟩, otherInStep⟩
  obtain rfl : line = otherLine := same
  obtain rfl : marks = otherMarks := sameMarks
  rfl

variable [DecidableEq α]

theorem pop?_eq_some {work rest : Worklist α} {element : α} :
    work.pop? = some (element, rest) ↔ work.waiting = element :: rest.waiting := by
  cases line : work.waiting with
  | nil => simp [pop?_of_nil line]
  | cons first others =>
      rcases pop?_of_cons line with ⟨left, taken, rfl⟩
      rw [taken, Option.some.injEq, Prod.mk.injEq, List.cons.injEq, and_congr_right_iff]
      intro _
      exact ⟨fun same => same ▸ rfl, eq_of_waiting_eq⟩

private theorem pop?_eq_none {work : Worklist α} : work.pop? = none ↔ work.waiting = [] := by
  cases line : work.waiting with
  | nil => simp [pop?_of_nil line]
  | cons first others =>
      rcases pop?_of_cons line with ⟨left, taken, _⟩
      simp [taken]

theorem mem_push (work : Worklist α) (element other : α) :
    other ∈ (work.push element).waiting ↔ other ∈ work.waiting ∨ other = element := by
  change other ∈ (work.toQueue.push element).2.waiting ↔ _
  by_cases marked : work.queued element = true
  · have waits := (work.inStep.marked element).mp marked
    rw [Queue.push_of_marked marked]
    constructor
    · exact .inl
    · rintro (member | rfl)
      · exact member
      · exact waits
  · simp [Queue.push_of_unmarked marked]

theorem mem_ofList (elements : List α) (element : α) :
    element ∈ (ofList elements).waiting ↔ element ∈ elements := by
  suffices queued : ∀ work : Worklist α, element ∈ (elements.foldl push work).waiting ↔
      element ∈ work.waiting ∨ element ∈ elements by
    simpa [ofList, empty, Queue.empty] using queued empty
  induction elements with
  | nil => simp
  | cons first rest inductionHypothesis =>
      intro work
      rw [List.foldl_cons, inductionHypothesis, mem_push, List.mem_cons, or_assoc]

end Worklist

namespace Arrivals

variable {bound : Nat}

/-- What a label holds after one more set has arrived there. -/
def receive (held : Option (IndexSet bound)) (value : IndexSet bound) : IndexSet bound :=
  match held with
  | none => value
  | some held => held.union value

private theorem receive_receive (held : Option (IndexSet bound)) (value : IndexSet bound) :
    receive (some (receive held value)) value = receive held value := by
  cases held with
  | none =>
      apply IndexSet.ext_contains
      simp [receive]
  | some set => exact set.union_union_self value

private theorem within_receive (held : Option (IndexSet bound)) (value : IndexSet bound) :
    value.Within (receive held value) := by
  cases held with
  | none => exact .refl value
  | some set => exact .union_right set value

private theorem at?_eq_some {arrivals : Arrivals bound} {label : Nat} {set : IndexSet bound} :
    arrivals.at? label = some set ↔ arrivals[label]? = some (some set) := by
  simp [at?, Option.join_eq_some_iff]

theorem lt_length_of_at? {arrivals : Arrivals bound} {label : Nat} {set : IndexSet bound}
    (here : arrivals.at? label = some set) : label < arrivals.length :=
  (List.getElem?_eq_some_iff.mp (at?_eq_some.mp here)).1

/-- One collection of arrivals holds at least what another one does. -/
def Grows (before after : Arrivals bound) : Prop :=
  ∀ label set, before.at? label = some set →
    ∃ larger, after.at? label = some larger ∧ set.Within larger

theorem Grows.refl (arrivals : Arrivals bound) : arrivals.Grows arrivals :=
  fun _ set here => ⟨set, here, .refl set⟩

theorem Grows.trans {first second third : Arrivals bound} (early : first.Grows second)
    (late : second.Grows third) : first.Grows third := by
  intro label set here
  rcases early label set here with ⟨middle, there, smaller⟩
  rcases late label middle there with ⟨larger, last, further⟩
  exact ⟨larger, last, smaller.trans further⟩

end Arrivals

namespace Progress

variable {bound : Nat}

/-! ## One delivery -/

@[simp] theorem length_deliver (value : IndexSet bound) (progress : Progress bound)
    (label : Nat) : (progress.deliver value label).arrivals.length = progress.arrivals.length := by
  unfold deliver
  split
  · rfl
  · split <;> simp

/-- A delivery changes the set at its label only, where it arrives. -/
theorem at?_deliver (value : IndexSet bound) (progress : Progress bound) (label other : Nat) :
    (progress.deliver value label).arrivals.at? other =
      if other = label ∧ label < progress.arrivals.length then
        some (Arrivals.receive (progress.arrivals.at? label) value)
      else progress.arrivals.at? other := by
  unfold deliver
  split
  · rename_i absent
    have outside := List.getElem?_eq_none_iff.mp absent
    rw [if_neg (by omega)]
  · rename_i held here
    have inside := (List.getElem?_eq_some_iff.mp here).1
    have atLabel : progress.arrivals.at? label = held := by simp [Arrivals.at?, here]
    split
    · rename_i unchanged
      cases held with
      | none => simp [Arrivals.increase] at unchanged
      | some set =>
          simp only [Arrivals.increase, ite_eq_left_iff, reduceCtorEq, imp_false,
            Decidable.not_not] at unchanged
          by_cases same : other = label
          · rw [if_pos ⟨same, inside⟩, atLabel, same, atLabel]
            simp [Arrivals.receive, unchanged]
          · rw [if_neg fun both => same both.1]
    · rename_i joined increased
      have arrived : joined = Arrivals.receive held value := by
        cases held with
        | none => exact (Option.some.inj increased).symm
        | some set =>
            simp only [Arrivals.increase] at increased
            split at increased
            · simp at increased
            · exact (Option.some.inj increased).symm
      by_cases same : other = label
      · rw [if_pos ⟨same, inside⟩, atLabel, same]
        simp [Arrivals.at?, inside, arrived]
      · rw [if_neg fun both => same both.1]
        simp [Arrivals.at?, Ne.symm same]

private theorem waiting_deliver (value : IndexSet bound) (progress : Progress bound) (label : Nat)
    {other : Nat} (waits : other ∈ progress.work.waiting) :
    other ∈ (progress.deliver value label).work.waiting := by
  unfold deliver
  split
  · exact waits
  · split
    · exact waits
    · exact (Worklist.mem_push _ _ _).mpr (.inl waits)

/-- A label whose set is changed by a delivery is queued. -/
theorem waiting_of_deliver_ne (value : IndexSet bound) (progress : Progress bound)
    (label other : Nat)
    (changed : (progress.deliver value label).arrivals.at? other ≠ progress.arrivals.at? other) :
    other ∈ (progress.deliver value label).work.waiting := by
  have same : other = label := by
    by_cases same : other = label
    · exact same
    · rw [at?_deliver, if_neg fun both => same both.1] at changed
      exact absurd rfl changed
  subst same
  unfold deliver at changed ⊢
  split at changed
  · exact absurd rfl changed
  · split at changed
    · exact absurd rfl changed
    · exact (Worklist.mem_push _ _ _).mpr (.inr rfl)

/-! ## Deliveries to several labels -/

@[simp] theorem length_deliverAll (value : IndexSet bound) (progress : Progress bound)
    (labels : List Nat) :
    (progress.deliverAll value labels).arrivals.length = progress.arrivals.length := by
  induction labels generalizing progress with
  | nil => rfl
  | cons label rest inductionHypothesis =>
      exact (inductionHypothesis (progress.deliver value label)).trans
        (length_deliver value progress label)

private theorem at?_deliverAll (value : IndexSet bound) (progress : Progress bound)
    (labels : List Nat)
    (other : Nat) :
    (progress.deliverAll value labels).arrivals.at? other =
      if other ∈ labels ∧ other < progress.arrivals.length then
        some (Arrivals.receive (progress.arrivals.at? other) value)
      else progress.arrivals.at? other := by
  induction labels generalizing progress with
  | nil => simp [deliverAll]
  | cons label rest inductionHypothesis =>
      have first := at?_deliver value progress label other
      have others := inductionHypothesis (progress.deliver value label)
      rw [length_deliver] at others
      change ((progress.deliver value label).deliverAll value rest).arrivals.at? other = _
      rw [others, first]
      by_cases inside : other < progress.arrivals.length
      · by_cases same : other = label
        · subst same
          by_cases again : other ∈ rest <;> simp [inside, again, Arrivals.receive_receive]
        · simp [same, inside]
      · by_cases same : other = label
        · subst same
          simp [inside]
        · simp [same, inside]

theorem waiting_deliverAll (value : IndexSet bound) (progress : Progress bound)
    (labels : List Nat) {other : Nat} (waits : other ∈ progress.work.waiting) :
    other ∈ (progress.deliverAll value labels).work.waiting := by
  induction labels generalizing progress with
  | nil => exact waits
  | cons label rest inductionHypothesis =>
      exact inductionHypothesis (progress.deliver value label)
        (waiting_deliver value progress label waits)

private theorem waiting_of_deliverAll_ne (value : IndexSet bound) (progress : Progress bound)
    (labels : List Nat) (other : Nat)
    (changed : (progress.deliverAll value labels).arrivals.at? other ≠
      progress.arrivals.at? other) :
    other ∈ (progress.deliverAll value labels).work.waiting := by
  induction labels generalizing progress with
  | nil => exact absurd rfl changed
  | cons label rest inductionHypothesis =>
      by_cases later : (progress.deliverAll value (label :: rest)).arrivals.at? other =
          (progress.deliver value label).arrivals.at? other
      · have queued := waiting_of_deliver_ne value progress label other (later ▸ changed)
        exact waiting_deliverAll value (progress.deliver value label) rest queued
      · exact inductionHypothesis (progress.deliver value label) later

end Progress

namespace Propagation

variable {bound : Nat}

/-! ## One visit -/

@[simp] theorem length_visit (problem : Propagation bound) (arrivals : Arrivals bound)
    (label : Nat) (work : Worklist Nat) :
    (problem.visit arrivals label work).arrivals.length = arrivals.length := by
  unfold visit
  split
  · rfl
  · exact Progress.length_deliverAll _ _ _

/-- Looking at a label that holds a set delivers the outcome to its targets and
changes nothing else. -/
theorem at?_visit (problem : Propagation bound) {arrivals : Arrivals bound} {label : Nat}
    {set : IndexSet bound} (here : arrivals.at? label = some set) (work : Worklist Nat)
    (other : Nat) :
    (problem.visit arrivals label work).arrivals.at? other =
      if other ∈ problem.targets label ∧ other < arrivals.length then
        some (Arrivals.receive (arrivals.at? other) (problem.transfer label set))
      else arrivals.at? other := by
  unfold visit
  rw [here]
  exact Progress.at?_deliverAll _ _ _ _

theorem visit_of_none (problem : Propagation bound) {arrivals : Arrivals bound} {label : Nat}
    (absent : arrivals.at? label = none) (work : Worklist Nat) :
    problem.visit arrivals label work = { arrivals, work } := by
  unfold visit
  rw [absent]

private theorem waiting_visit (problem : Propagation bound) (arrivals : Arrivals bound)
    (label : Nat)
    {work : Worklist Nat} {other : Nat} (waits : other ∈ work.waiting) :
    other ∈ (problem.visit arrivals label work).work.waiting := by
  unfold visit
  split
  · exact waits
  · exact Progress.waiting_deliverAll _ _ _ waits

private theorem waiting_of_visit_ne (problem : Propagation bound) (arrivals : Arrivals bound)
    (label : Nat) (work : Worklist Nat) (other : Nat)
    (changed : (problem.visit arrivals label work).arrivals.at? other ≠ arrivals.at? other) :
    other ∈ (problem.visit arrivals label work).work.waiting := by
  unfold visit at changed ⊢
  split at changed
  · exact absurd rfl changed
  · exact Progress.waiting_of_deliverAll_ne _ _ _ _ changed

theorem grows_visit (problem : Propagation bound) (arrivals : Arrivals bound) (label : Nat)
    (work : Worklist Nat) : arrivals.Grows (problem.visit arrivals label work).arrivals := by
  cases here : arrivals.at? label with
  | none =>
      rw [visit_of_none problem here]
      exact .refl arrivals
  | some set =>
      intro other held there
      rw [at?_visit problem here]
      split
      · exact ⟨_, rfl, by simpa [there, Arrivals.receive] using .union_left held _⟩
      · exact ⟨held, there, .refl held⟩

/-! ## A whole run -/

/-- What every visit preserves holds when the worklist is empty, and the run
returns what has arrived by then. -/
theorem run_preserves (problem : Propagation bound) {motive : Progress bound → Prop}
    (start : Progress bound) (initially : motive start)
    (kept : ∀ current label rest, motive current → current.work.waiting = label :: rest.waiting →
      motive (problem.visit current.arrivals label rest)) :
    ∃ last, motive last ∧ last.work.waiting = [] ∧ problem.run start = last.arrivals := by
  induction start using Propagation.run.induct problem with
  | case1 progress finished =>
      refine ⟨progress, initially, Worklist.pop?_eq_none.mp finished, ?_⟩
      rw [run]
      split
      · rfl
      · simp_all
  | case2 progress label rest taken inductionHypothesis =>
      have waiting := Worklist.pop?_eq_some.mp taken
      rcases inductionHypothesis (kept progress label rest initially waiting) with
        ⟨last, holds, finished, result⟩
      refine ⟨last, holds, finished, ?_⟩
      rw [← result, run]
      split
      · simp_all
      · rename_i other remaining alsoTaken
        have same : label = other ∧ rest = remaining := by simpa [taken] using alsoTaken
        rw [same.1, same.2]

/-- The outcome at a label has arrived at all of its targets. -/
def Delivered (problem : Propagation bound) (arrivals : Arrivals bound) (label : Nat)
    (set : IndexSet bound) : Prop :=
  ∀ target ∈ problem.targets label, target < arrivals.length →
    ∃ held, arrivals.at? target = some held ∧ (problem.transfer label set).Within held

/-- Whatever has arrived at a label that is not queued has been passed on. -/
def Settled (problem : Propagation bound) (progress : Progress bound) : Prop :=
  ∀ label set, progress.arrivals.at? label = some set →
    label ∈ progress.work.waiting ∨ problem.Delivered progress.arrivals label set

private theorem settled_visit (problem : Propagation bound) {current : Progress bound} {label : Nat}
    {rest : Worklist Nat} (settled : problem.Settled current)
    (waiting : current.work.waiting = label :: rest.waiting) :
    problem.Settled (problem.visit current.arrivals label rest) := by
  intro other set here
  by_cases unchanged : (problem.visit current.arrivals label rest).arrivals.at? other =
      current.arrivals.at? other
  · rw [unchanged] at here
    by_cases stillWaits : other ∈ rest.waiting
    · exact .inl (waiting_visit problem _ _ stillWaits)
    · right
      intro target edge inside
      rw [length_visit] at inside
      by_cases same : other = label
      · subst same
        rw [at?_visit problem here, if_pos ⟨edge, inside⟩]
        exact ⟨_, rfl, Arrivals.within_receive _ _⟩
      · have notQueued : other ∉ current.work.waiting := by
          rw [waiting]
          simp [same, stillWaits]
        rcases settled other set here with queued | delivered
        · exact absurd queued notQueued
        · rcases delivered target edge inside with ⟨held, there, smaller⟩
          rcases grows_visit problem _ label rest target held there with ⟨larger, now, further⟩
          exact ⟨larger, now, smaller.trans further⟩
  · exact .inl (waiting_of_visit_ne problem _ _ _ _ unchanged)

/-- A run ends with every outcome delivered. -/
theorem delivered_run (problem : Propagation bound) (start : Progress bound)
    (settled : problem.Settled start) {label : Nat} {set : IndexSet bound}
    (here : (problem.run start).at? label = some set) :
    problem.Delivered (problem.run start) label set := by
  rcases problem.run_preserves start settled
    fun current label rest holds waiting => settled_visit problem holds waiting with
    ⟨last, holds, finished, result⟩
  rw [result] at here ⊢
  rcases holds label set here with queued | delivered
  · simp [finished] at queued
  · exact delivered

theorem length_run (problem : Propagation bound) (start : Progress bound) :
    (problem.run start).length = start.arrivals.length := by
  rcases problem.run_preserves
    (motive := fun current => current.arrivals.length = start.arrivals.length) start rfl
    fun current label rest holds _ => (length_visit problem _ _ _).trans holds with
    ⟨last, holds, _, result⟩
  rw [result, holds]

theorem grows_run (problem : Propagation bound) (start : Progress bound) :
    start.arrivals.Grows (problem.run start) := by
  rcases problem.run_preserves
    (motive := fun current => start.arrivals.Grows current.arrivals) start (.refl _)
    fun current label rest holds _ => holds.trans (grows_visit problem _ _ _) with
    ⟨last, holds, _, result⟩
  rw [result]
  exact holds

/-- What holds of the sets at the start, and is kept by transfer along an edge
and by joining, holds of the sets in the end. -/
theorem run_holds (problem : Propagation bound) {motive : Nat → IndexSet bound → Prop}
    (start : Progress bound)
    (initially : ∀ label set, start.arrivals.at? label = some set → motive label set)
    (joined : ∀ label left right, motive label left → motive label right →
      motive label (left.union right))
    (passed : ∀ source set target, motive source set → target ∈ problem.targets source →
      motive target (problem.transfer source set))
    {label : Nat} {set : IndexSet bound} (here : (problem.run start).at? label = some set) :
    motive label set := by
  have kept : ∀ (current : Progress bound) source rest,
      (∀ label set, current.arrivals.at? label = some set → motive label set) →
      current.work.waiting = source :: rest.waiting →
      ∀ label set, (problem.visit current.arrivals source rest).arrivals.at? label = some set →
        motive label set := by
    intro current source rest holds _ target value there
    cases taken : current.arrivals.at? source with
    | none =>
        rw [visit_of_none problem taken] at there
        exact holds target value there
    | some origin =>
        rw [at?_visit problem taken] at there
        split at there
        · rename_i edge
          rcases Option.some.inj there with rfl
          have arrived := passed source origin target (holds source origin taken) edge.1
          cases held : current.arrivals.at? target with
          | none => exact arrived
          | some before => exact joined target before _ (holds target before held) arrived
        · exact holds target value there
  rcases problem.run_preserves start initially kept with ⟨last, holds, _, result⟩
  rw [result] at here
  exact holds label set here

end Propagation
end BorrowChecker
