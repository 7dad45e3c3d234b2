import BorrowChecker.Proofs.ActiveLoans
import BorrowChecker.Proofs.LifetimePoints

namespace BorrowChecker

/-!
Which parts of the analysis can fail.

A body has to be valid, its demands have to be collected and the moves of its
instructions determined: only there can types get in the way.  Everything else
follows.  What the instructions of a valid body read is known, the live locals are
locals of the body, every graph has a solution, and a place that receives a borrow
has a borrow type as soon as the demands of the borrow were collected.
-/

namespace Body

variable {body : Body} {program : Program} {flow : Flow}

/-- Where the demands of an instruction were collected, its loan can be determined. -/
theorem InOrder.exists_loanAt (inOrder : body.InOrder program) {graph : OutlivesGraph}
    (hasGraph : body.outlivesGraph = .ok graph) (label : Nat) :
    ∃ loan, body.loanAt label = .ok loan := by
  unfold loanAt
  split
  · rename_i target mutability place next here
    rcases exists_instrDemands inOrder hasGraph here with ⟨before, after, demanded, _⟩
    rcases borrowDemands_eq_ok demanded with ⟨lifetime, _, _, _, _, _, typed, _⟩
    exact ⟨_, bind_eq_ok.mpr ⟨_, typed, rfl⟩⟩
  · exact ⟨none, rfl⟩

private theorem lt_locals_of_live {label position : Nat}
    (live : position ∈ (body.liveness flow).liveAt label) : position < body.locals.length := by
  rcases (Liveness.mem_liveAt_iff _ label position).mp live with ⟨set, _, member⟩
  exact set.lt_of_contains member

/-- A valid body has an analysis as soon as its demands and its uninitialized places are
determined. -/
theorem exists_analyze {graph : OutlivesGraph} {uninitialized : Uninitialized}
    (valid : body.IsValid) (hasFlow : body.flow = .ok flow)
    (hasGraph : body.outlivesGraph = .ok graph)
    (computed : body.uninitialized flow = .ok uninitialized) :
    ∃ analysis, body.analyze = .ok analysis ∧ analysis.uninitialized = uninitialized := by
  rcases valid.inOrder with ⟨program, inOrder⟩
  rcases exists_requirements fun label position => lt_locals_of_live with
    ⟨requirements, required⟩
  rcases graph.exists_solve requirements body.pointSpace with ⟨lifetimes, solved, _⟩
  rcases mapM_ok_of_forall fun label (_ : label ∈ flow.discovery) =>
    inOrder.exists_loanAt hasGraph label with ⟨loans, determined⟩
  exact exists_analyze_of_parts valid hasFlow hasGraph (inOrder.liveLocals_eq hasFlow) required
    solved computed (trackLoans_eq_ok.mpr ⟨⟨loans, determined⟩, rfl⟩)

end Body
end BorrowChecker
