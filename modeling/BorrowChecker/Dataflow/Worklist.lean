import BorrowChecker.Dataflow.Queue

namespace BorrowChecker

/-!
Worklists.

A worklist is a queue whose marks are in step with the elements that wait.  Both
operations of a queue keep it so.  An element that kept its mark after it had been
taken out could not be queued again, and what arrives at it later would be lost
without a complaint.
-/

/-- A queue that is in step. -/
structure Worklist (α : Type) extends Queue α where
  inStep : toQueue.InStep

namespace Worklist

variable {α : Type}

def empty : Worklist α := ⟨.empty, Queue.inStep_empty⟩

variable [DecidableEq α]

def push (work : Worklist α) (element : α) : Worklist α :=
  ⟨(work.toQueue.push element).2, work.inStep.push element⟩

def pop? (work : Worklist α) : Option (α × Worklist α) :=
  work.toQueue.pop.1.toOption.map fun element =>
    (element, ⟨work.toQueue.pop.2, work.inStep.pop⟩)

/-- The worklist that arises by queueing some elements in turn. -/
def ofList (elements : List α) : Worklist α := elements.foldl push empty

/-- What is left when the first element of the line has been taken out. -/
theorem pop?_of_cons {work : Worklist α} {first : α} {others : List α}
    (line : work.waiting = first :: others) :
    ∃ rest, work.pop? = some (first, rest) ∧ rest.waiting = others := by
  have popped := Queue.pop_of_cons line
  refine ⟨⟨work.toQueue.pop.2, work.inStep.pop⟩, ?_, ?_⟩
  · simp [pop?, popped, Except.toOption]
  · exact congrArg (fun answer => answer.2.waiting) popped

theorem pop?_of_nil {work : Worklist α} (line : work.waiting = []) : work.pop? = none := by
  simp [pop?, Queue.pop_of_nil line, Except.toOption]

/-- Taking an element out shortens a worklist by one. -/
theorem size_of_pop? {work rest : Worklist α} {element : α}
    (taken : work.pop? = some (element, rest)) : work.size = rest.size + 1 := by
  cases line : work.waiting with
  | nil => simp [pop?_of_nil line] at taken
  | cons first others =>
      obtain ⟨left, alsoTaken, rfl⟩ := pop?_of_cons line
      obtain ⟨-, rfl⟩ := Prod.mk.inj (Option.some.inj (taken.symm.trans alsoTaken))
      simp [Queue.size, line]

/-- Queueing lengthens a worklist by one element at most. -/
theorem size_push_le (work : Worklist α) (element : α) :
    (work.push element).size ≤ work.size + 1 := by
  by_cases marked : work.queued element = true
  · simp [push, Queue.push_of_marked marked]
  · simp [push, Queue.push_of_unmarked marked, Queue.size]

end Worklist
end BorrowChecker
