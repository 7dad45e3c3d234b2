import BorrowChecker.Dataflow.IndexSet
import BorrowChecker.Dataflow.Worklist

namespace BorrowChecker

/-!
Propagation of sets along the edges of a graph.

Each label holds a set, or none if nothing has arrived there.  Taking a label
from the worklist applies the transfer function to its set and delivers the
outcome along every edge that leaves the label; a label whose set grows is
queued again.  Sets only grow and are bounded, so propagation ends whatever the
transfer function is; no monotonicity is needed for that.
-/

/-- What is propagated: where the outcome at a label is delivered, and how it is
computed from the set at the label. -/
structure Propagation (bound : Nat) where
  targets : Nat → List Nat
  transfer : Nat → IndexSet bound → IndexSet bound

/-- The sets that have arrived so far, by label. -/
abbrev Arrivals (bound : Nat) := List (Option (IndexSet bound))

namespace Arrivals

variable {bound : Nat}

def at? (arrivals : Arrivals bound) (label : Nat) : Option (IndexSet bound) :=
  arrivals[label]?.join

/-- How much can still arrive at one label.  A label that holds nothing has room
for one arrival more than one that holds the empty set. -/
def room : Option (IndexSet bound) → Nat
  | none => (IndexSet.empty : IndexSet bound).deficit + 1
  | some set => set.deficit

/-- How much can still arrive at all labels together. -/
def capacity : Arrivals bound → Nat
  | [] => 0
  | held :: rest => room held + capacity rest

/-- What is at a label after one more set has been delivered there, if that
changes anything. -/
def increase (value : IndexSet bound) : Option (IndexSet bound) → Option (IndexSet bound)
  | none => some value
  | some held => if held.union value = held then none else some (held.union value)

/-- An increase uses up room. -/
theorem room_increase {value joined : IndexSet bound} {held : Option (IndexSet bound)}
    (increased : increase value held = some joined) : room (some joined) < room held := by
  cases held with
  | none =>
      have bounded := joined.deficit_le
      simp only [room]
      omega
  | some held =>
      simp only [increase] at increased
      split at increased
      · simp at increased
      · rename_i grown
        obtain rfl := Option.some.inj increased
        exact IndexSet.deficit_union_lt grown

/-- Replacing the set at one label by a larger one uses up capacity. -/
theorem capacity_set {arrivals : Arrivals bound} {label : Nat}
    {held : Option (IndexSet bound)} {joined : IndexSet bound}
    (found : arrivals[label]? = some held) (smaller : room (some joined) < room held) :
    capacity (arrivals.set label (some joined)) < capacity arrivals := by
  induction arrivals generalizing label with
  | nil => simp at found
  | cons first rest inductionHypothesis =>
      cases label with
      | zero =>
          obtain rfl : first = held := by simpa using found
          simpa [capacity] using smaller
      | succ label =>
          have smallerRest := inductionHypothesis (by simpa using found)
          simpa [capacity] using smallerRest

end Arrivals

/-- A propagation under way: what has arrived, and which labels have to be
looked at. -/
structure Progress (bound : Nat) where
  arrivals : Arrivals bound
  work : Worklist Nat

namespace Progress

variable {bound : Nat}

/-- Deliver a set to a label, and queue the label if its set has grown. -/
def deliver (value : IndexSet bound) (progress : Progress bound) (label : Nat) :
    Progress bound :=
  match progress.arrivals[label]? with
  | none => progress
  | some held =>
      match Arrivals.increase value held with
      | none => progress
      | some joined =>
          { arrivals := progress.arrivals.set label (some joined)
            work := progress.work.push label }

/-- What bounds the remaining work. -/
def measure (progress : Progress bound) : Nat :=
  progress.arrivals.capacity + progress.work.size

/-- A delivery does not add to the remaining work: the room it uses up pays for
the label it queues. -/
theorem measure_deliver (value : IndexSet bound) (progress : Progress bound) (label : Nat) :
    (progress.deliver value label).measure ≤ progress.measure := by
  unfold deliver
  split
  · exact Nat.le_refl _
  · rename_i held found
    split
    · exact Nat.le_refl _
    · rename_i joined increased
      have smaller := Arrivals.capacity_set found (Arrivals.room_increase increased)
      have queued := progress.work.size_push_le label
      simp only [measure]
      omega

/-- Deliver one set to several labels in turn. -/
def deliverAll (value : IndexSet bound) (progress : Progress bound) (labels : List Nat) :
    Progress bound :=
  labels.foldl (deliver value) progress

private theorem measure_deliverAll (value : IndexSet bound) (progress : Progress bound)
    (labels : List Nat) : (progress.deliverAll value labels).measure ≤ progress.measure := by
  induction labels generalizing progress with
  | nil => exact Nat.le_refl _
  | cons label rest inductionHypothesis =>
      exact Nat.le_trans (inductionHypothesis (progress.deliver value label))
        (measure_deliver value progress label)

end Progress

namespace Propagation

variable {bound : Nat}

/-- Look at one label: deliver the outcome of its set along its edges. -/
def visit (problem : Propagation bound) (arrivals : Arrivals bound) (label : Nat)
    (work : Worklist Nat) : Progress bound :=
  match arrivals.at? label with
  | none => { arrivals, work }
  | some set =>
      Progress.deliverAll (problem.transfer label set) { arrivals, work } (problem.targets label)

theorem measure_visit (problem : Propagation bound) (arrivals : Arrivals bound) (label : Nat)
    (work : Worklist Nat) :
    (problem.visit arrivals label work).measure ≤ arrivals.capacity + work.size := by
  unfold visit
  split
  · exact Nat.le_refl _
  · exact Progress.measure_deliverAll _ _ _

set_option linter.unusedVariables false in
/-- Look at the queued labels until none is left. -/
def run (problem : Propagation bound) (progress : Progress bound) : Arrivals bound :=
  match taken : progress.work.pop? with
  | none => progress.arrivals
  | some (label, rest) => problem.run (problem.visit progress.arrivals label rest)
termination_by progress.measure
decreasing_by
  have shorter := Worklist.size_of_pop? taken
  have bounded := measure_visit problem progress.arrivals label rest
  simp only [Progress.measure] at *
  omega

end Propagation
end BorrowChecker
