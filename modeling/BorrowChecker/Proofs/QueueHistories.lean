import BorrowChecker.Dataflow.Queue

namespace BorrowChecker
namespace Queue

/-!
What a queue has done after any operations.

Operations may come in any order and number.  An element may be pushed while it
waits and again after it was taken out, and elements may be asked for when nothing
waits.  A history records what the queue answered: the elements of the pushes that
were answered with success, and the elements that were handed out.

Two facts are kept by every operation.  The marks are in step with the line, and
what was handed out, followed by what still waits, is what was added.  The second
fact orders the elements by the time of their addition, so the first in line is the
one that has waited longest, although the same element may occur several times among
the additions.  All that a queue does next is read off these two facts.
-/

/-- Something done to a queue. -/
inductive Operation (α : Type) where
  | push (element : α)
  | pop
  deriving DecidableEq, Repr

/-- A queue, and what it answered so far: the elements it added and the elements it
handed out, in the order in which that happened. -/
structure History (α : Type) where
  added : List α := []
  taken : List α := []
  queue : Queue α := .empty

namespace History

variable {α : Type} [DecidableEq α]

/-- Perform one more operation and record the answer. -/
def perform (history : History α) : Operation α → History α
  | .push element =>
      match history.queue.push element with
      | (true, queue) => { history with queue, added := history.added ++ [element] }
      | (false, queue) => { history with queue }
  | .pop =>
      match history.queue.pop with
      | (.ok element, queue) => { history with queue, taken := history.taken ++ [element] }
      | (.error _, queue) => { history with queue }

def ofOperations (operations : List (Operation α)) : History α := operations.foldl perform {}

end History

/-! ## One operation -/

namespace InStep

variable {α : Type} [DecidableEq α] {queue : Queue α} {element : α}

theorem push_of_waiting (inStep : queue.InStep) (waits : element ∈ queue.waiting) :
    queue.push element = (false, queue) :=
  push_of_marked ((inStep.marked element).mpr waits)

theorem push_of_absent (inStep : queue.InStep) (absent : element ∉ queue.waiting) :
    (queue.push element).1 = true ∧
      (queue.push element).2.waiting = queue.waiting ++ [element] := by
  rw [push_of_unmarked (mt (inStep.marked element).mp absent)]
  exact ⟨rfl, rfl⟩

theorem push_eq_true_iff (inStep : queue.InStep) (element : α) :
    (queue.push element).1 = true ↔ element ∉ queue.waiting := by
  constructor
  · intro added waits
    simp [inStep.push_of_waiting waits] at added
  · exact fun absent => (inStep.push_of_absent absent).1

/-- The element handed out waits no longer, so it can be added again. -/
theorem push_popped (inStep : queue.InStep) {rest : List α}
    (line : queue.waiting = element :: rest) : (queue.pop.2.push element).1 = true := by
  have distinct := inStep.distinct
  rw [line, List.nodup_cons] at distinct
  rw [inStep.pop.push_eq_true_iff, pop_of_cons line]
  exact distinct.1

end InStep

/-! ## All operations -/

namespace History

variable {α : Type} [DecidableEq α]

/-- The marks are in step, and each addition either was handed out or still waits, in
the order of the additions. -/
structure Accounted (history : History α) : Prop where
  inStep : history.queue.InStep
  conserved : history.taken ++ history.queue.waiting = history.added

theorem Accounted.perform {history : History α} (accounted : history.Accounted)
    (operation : Operation α) : (history.perform operation).Accounted := by
  cases operation with
  | push element =>
      have inStep := accounted.inStep.push element
      by_cases marked : history.queue.queued element = true
      · simpa [History.perform, push_of_marked marked] using accounted
      · rw [push_of_unmarked marked] at inStep
        rw [History.perform, push_of_unmarked marked]
        exact ⟨inStep, by rw [← accounted.conserved, List.append_assoc]⟩
  | pop =>
      have inStep := accounted.inStep.pop
      cases line : history.queue.waiting with
      | nil => simpa [History.perform, pop_of_nil line] using accounted
      | cons first rest =>
          rw [pop_of_cons line] at inStep
          rw [History.perform, pop_of_cons line]
          exact ⟨inStep, by rw [← accounted.conserved, line, List.append_cons]⟩

theorem Accounted.performAll {history : History α} (accounted : history.Accounted)
    (operations : List (Operation α)) : (operations.foldl History.perform history).Accounted := by
  induction operations generalizing history with
  | nil => exact accounted
  | cons operation rest inductionHypothesis =>
      exact inductionHypothesis (accounted.perform operation)

private theorem accounted_ofOperations (operations : List (Operation α)) :
    (ofOperations operations).Accounted :=
  Accounted.performAll ⟨inStep_empty, rfl⟩ operations

/-- A queue that hands out its elements in the order in which they were added, and
that adds no element while it waits. -/
structure FirstInFirstOut (history : History α) : Prop where
  distinct : history.queue.waiting.Nodup
  marked : ∀ element, history.queue.queued element = true ↔ element ∈ history.queue.waiting
  push_succeeds : ∀ element,
    (history.queue.push element).1 = true ↔ element ∉ history.queue.waiting
  push_appends : ∀ element, element ∉ history.queue.waiting →
    (history.queue.push element).2.waiting = history.queue.waiting ++ [element]
  push_keeps : ∀ element, element ∈ history.queue.waiting →
    (history.queue.push element).2 = history.queue
  /-- The earliest addition that was not handed out before is handed out, and the
  others stay in line. -/
  pop_oldest : history.queue.waiting ≠ [] → ∃ element,
    history.queue.pop.1 = .ok element ∧
    history.queue.waiting = element :: history.queue.pop.2.waiting ∧
    history.added = history.taken ++ element :: history.queue.pop.2.waiting ∧
    (history.queue.pop.2.push element).1 = true
  pop_fails : history.queue.waiting = [] → history.queue.pop = (.error .emptyQueue, history.queue)
  conserved : history.taken ++ history.queue.waiting = history.added

/-- Whatever is pushed and popped on an empty queue, the queue stays free of
repetition and first in, first out. -/
theorem firstInFirstOut_ofOperations (operations : List (Operation α)) :
    (ofOperations operations).FirstInFirstOut := by
  have accounted := accounted_ofOperations operations
  have inStep := accounted.inStep
  exact
    { distinct := inStep.distinct
      marked := inStep.marked
      push_succeeds := inStep.push_eq_true_iff
      push_appends := fun _ absent => (inStep.push_of_absent absent).2
      push_keeps := fun _ waits => by rw [inStep.push_of_waiting waits]
      pop_oldest := by
        intro nonempty
        rcases List.exists_cons_of_ne_nil nonempty with ⟨first, rest, line⟩
        have popped := pop_of_cons line
        refine ⟨first, by rw [popped], by rw [popped, line], ?_, inStep.push_popped line⟩
        rw [popped, ← accounted.conserved, line]
      pop_fails := pop_of_nil
      conserved := accounted.conserved }

/-- Element 1 is pushed while it waits and again after it was taken out, and twice an
element is asked for when nothing waits. -/
def requeuing : List (Operation Nat) :=
  [.pop, .push 1, .push 2, .push 1, .pop, .push 1, .push 3, .pop, .pop, .pop, .pop,
    .push 2, .push 1]

theorem requeuing_firstInFirstOut :
    (ofOperations requeuing).added = [1, 2, 1, 3, 2, 1] ∧
      (ofOperations requeuing).taken = [1, 2, 1, 3] ∧
      (ofOperations requeuing).queue.waiting = [2, 1] ∧
      (ofOperations requeuing).FirstInFirstOut :=
  ⟨by decide, by decide, by decide, firstInFirstOut_ofOperations requeuing⟩

end History
end Queue
end BorrowChecker
