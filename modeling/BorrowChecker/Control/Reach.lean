namespace BorrowChecker
namespace Reach

/-!
Reachability in a finite graph.

The graph is given by a successor function and by the list of nodes that a
search may visit.  A search proceeds in layers: the nodes not seen so far that
are successors of the last layer form the next one.  Each layer removes nodes
from the unseen ones, so the search ends after at most one layer per node.
-/

/-- There is a chain of successor steps, possibly empty. -/
inductive Leads {α : Type} (successors : α → List α) : α → α → Prop where
  | refl (node : α) : Leads successors node node
  | step {first middle last : α} (edge : middle ∈ successors first)
      (rest : Leads successors middle last) : Leads successors first last

variable {α : Type} [DecidableEq α]

/-- The unseen nodes that are successors of the frontier. -/
def layer (successors : α → List α) (unseen frontier : List α) : List α :=
  let reached := frontier.flatMap successors
  unseen.filter fun node => reached.contains node

def without (unseen found : List α) : List α :=
  unseen.filter fun node => !found.contains node

/-- Finding a node leaves fewer of them unseen. -/
theorem length_without_layer (successors : α → List α) (unseen frontier : List α)
    (found : layer successors unseen frontier ≠ []) :
    (without unseen (layer successors unseen frontier)).length < unseen.length := by
  obtain ⟨node, member⟩ := List.exists_mem_of_ne_nil _ found
  apply List.length_filter_lt_length_iff_exists.mpr
  exact ⟨node, (List.mem_filter.mp member).1, by simpa using member⟩

set_option linter.unusedVariables false in
/-- The unseen nodes that can be reached from the frontier, nearest first. -/
def search (successors : α → List α) (unseen frontier : List α) : List α :=
  if found : layer successors unseen frontier = [] then []
  else
    layer successors unseen frontier ++
      search successors (without unseen (layer successors unseen frontier))
        (layer successors unseen frontier)
termination_by unseen.length
decreasing_by exact length_without_layer successors unseen frontier found

/-- The nodes that can be reached from a start, the start included and first. -/
def closure (successors : α → List α) (nodes : List α) (start : α) : List α :=
  start :: search successors (without nodes [start]) [start]

end Reach
end BorrowChecker
