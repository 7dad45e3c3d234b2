import BorrowChecker.Analysis.Report
import BorrowChecker.Log

namespace BorrowChecker

/-!
What is logged about an analysis.

Entries tell the size of the outlives graph, the points where lifetimes are
alive, the state at every label, and what became of each family of rules.
Running times appear as the letter `T`.
-/

namespace Report

def lifetimeEntry (report : Report) (lifetime : Lifetime) : Except Fault LogEntry := do
  let analysis := report.analysis
  let shorter := (analysis.graph.shorter lifetime).map Lifetime.text
  let points := (← analysis.lifetimes.points lifetime).map Point.text
  return { severity := .trace
           message := analysis.body.name ++ ": " ++ lifetime.text ++ " outlives " ++
             bracketed shorter ++ ", alive at " ++ bracketed points }

def labelEntry (report : Report) (label : Nat) : LogEntry :=
  let analysis := report.analysis
  let instr := ((analysis.body.instr? label).map Instr.text).getD ""
  let uninit := (analysis.uninitialized.placesAt label).map Place.text
  let active := (analysis.loansAt label).map Loan.text
  { severity := .trace
    message := analysis.body.name ++ ": L" ++ toString label ++ " " ++ instr ++ " uninit=" ++
      bracketed uninit ++ " active=" ++ bracketed active }

/-- The entry on a family of rules; one that passed is not mentioned. -/
def familyNote? (name : String) : Family × Outcome → Option LogEntry
  | (family, .skipped) =>
      some { severity := .info, message := name ++ ": skipping " ++ family.name ++ " checks" }
  | (_, .passed) => none
  | (family, .violated violation) =>
      some { severity := .debug
             message := name ++ ": " ++ family.name ++ " check failed: " ++ violation.text }

/-- The entry that closes the log of an accepted body. -/
def closingEntries (report : Report) : List LogEntry :=
  match report.violation? with
  | some _ => []
  | none =>
      [{ severity := .debug, message := report.analysis.body.name ++ ": checked in T" }]

/-- All entries on an analysis, in order. -/
def entries (report : Report) : Except Fault (List LogEntry) := do
  let analysis := report.analysis
  let name := analysis.body.name
  let solved : LogEntry :=
    { severity := .debug
      message := name ++ ": " ++ toString analysis.graph.lifetimes.length ++ " lifetimes, " ++
        toString analysis.graph.edgeCount ++ " outlives edges (T)" }
  let lifetimes ← analysis.graph.lifetimes.mapM report.lifetimeEntry
  let done : LogEntry :=
    { severity := .debug, message := name ++ ": dataflow analyses done (T)" }
  return [solved] ++ lifetimes ++ [done] ++ analysis.body.labels.map report.labelEntry ++
    report.outcomes.filterMap (familyNote? name) ++ report.closingEntries

end Report

namespace Body

/-- The entries that checking a body logs.  A malformed body logs nothing. -/
def checkEntries (body : Body) (disabled : List String) : Except Fault (List LogEntry) :=
  match body.report disabled with
  | .error (.malformed _) => .ok []
  | .error (.fault fault) => .error fault
  | .ok report => report.entries

end Body
end BorrowChecker
