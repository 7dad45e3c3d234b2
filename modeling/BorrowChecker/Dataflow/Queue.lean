import BorrowChecker.Fault

namespace BorrowChecker

/-!
First-in, first-out queues without repetition.

An element that is already waiting is not queued a second time; once taken out
it may be queued again.  Whether an element is waiting is not found out by looking
through the line.  It is marked when it is queued and the mark is removed when it
is taken out, so the marks have to be kept in step with the line.
-/

/-- The elements waiting to be taken, the next one first, and the marks of those
that wait. -/
structure Queue (α : Type) where
  waiting : List α := []
  queued : α → Bool := fun _ => false

namespace Queue

variable {α : Type}

def empty : Queue α := {}

def isEmpty (queue : Queue α) : Bool := queue.waiting.isEmpty

def size (queue : Queue α) : Nat := queue.waiting.length

/-- The waiting elements are the marked ones, and none of them waits twice. -/
structure InStep (queue : Queue α) : Prop where
  marked : ∀ element, queue.queued element = true ↔ element ∈ queue.waiting
  distinct : queue.waiting.Nodup

theorem inStep_empty : (empty : Queue α).InStep where
  marked := by simp [empty]
  distinct := List.nodup_nil

variable [DecidableEq α]

/-- Queue an element unless it is marked as waiting.  The answer is whether it was
added. -/
def push (queue : Queue α) (element : α) : Bool × Queue α :=
  if queue.queued element then (false, queue)
  else
    (true,
      { waiting := queue.waiting ++ [element]
        queued := fun other => other == element || queue.queued other })

/-- Take out the element that has waited longest and remove its mark.  If nothing
waits, the answer is a fault and the queue stays as it is. -/
def pop (queue : Queue α) : Except Fault α × Queue α :=
  match queue.waiting with
  | [] => (.error .emptyQueue, queue)
  | first :: rest =>
      (.ok first,
        { waiting := rest
          queued := fun other => other != first && queue.queued other })

variable {queue : Queue α} {element : α}

theorem push_of_marked (marked : queue.queued element = true) :
    queue.push element = (false, queue) := by
  rw [push, if_pos marked]

theorem push_of_unmarked (unmarked : ¬ queue.queued element = true) :
    queue.push element =
      (true,
        { waiting := queue.waiting ++ [element]
          queued := fun other => other == element || queue.queued other }) := by
  rw [push, if_neg unmarked]

theorem pop_of_nil (line : queue.waiting = []) : queue.pop = (.error .emptyQueue, queue) := by
  simp [pop, line]

theorem pop_of_cons {rest : List α} (line : queue.waiting = element :: rest) :
    queue.pop =
      (.ok element,
        { waiting := rest
          queued := fun other => other != element && queue.queued other }) := by
  simp [pop, line]

namespace InStep

/-- A queued element is new to the line and is marked. -/
theorem push (inStep : queue.InStep) (element : α) : (queue.push element).2.InStep := by
  by_cases marked : queue.queued element = true
  · rw [push_of_marked marked]
    exact inStep
  · rw [push_of_unmarked marked]
    constructor
    · intro other
      simp [inStep.marked, or_comm]
    · refine List.nodup_append.mpr ⟨inStep.distinct, List.pairwise_singleton _ _, ?_⟩
      intro other waits last isLast same
      rw [same, List.mem_singleton.mp isLast, ← inStep.marked] at waits
      exact marked waits

/-- The element taken out waited once only, so it loses its mark with its place. -/
theorem pop (inStep : queue.InStep) : queue.pop.2.InStep := by
  cases line : queue.waiting with
  | nil =>
      rw [pop_of_nil line]
      exact inStep
  | cons first rest =>
      have distinct := inStep.distinct
      rw [line, List.nodup_cons] at distinct
      rw [pop_of_cons line]
      constructor
      · intro other
        simp only [Bool.and_eq_true, bne_iff_ne, inStep.marked, line, List.mem_cons]
        constructor
        · rintro ⟨different, same | later⟩
          · exact absurd same different
          · exact later
        · intro later
          exact ⟨fun same => distinct.1 (same ▸ later), .inr later⟩
      · exact distinct.2

end InStep
end Queue
end BorrowChecker
