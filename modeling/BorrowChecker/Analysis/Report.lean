import BorrowChecker.Liveness
import BorrowChecker.Region.Constraints
import BorrowChecker.Rules.Aliasing
import BorrowChecker.Rules.Initialized
import BorrowChecker.Rules.Signature
import BorrowChecker.Rules.Writable
import BorrowChecker.Validity

namespace BorrowChecker

/-!
The analysis of a body and its verdict.

The analyses run in strict phases.  Lifetime demands are collected and solved
first; the resulting sets are then fixed and determine which loans are active,
which is what the aliasing rule looks at.  The rules are applied one family after
the other, and the first violation is the verdict.  A family can be disabled; the
analyses themselves always run.
-/

/-- A family of rules. -/
inductive Family where
  | initialization
  | mutability
  | lifetimes
  | aliasing
  deriving DecidableEq, Repr, Inhabited

namespace Family

/-- The name by which a family is disabled. -/
def name : Family → String
  | initialization => "init"
  | mutability => "mutability"
  | lifetimes => "lifetimes"
  | aliasing => "aliasing"

/-- All families, in the order in which they are applied. -/
def all : List Family := [initialization, mutability, lifetimes, aliasing]

end Family

/-- The results of the analyses of a body. -/
structure Analysis where
  body : Body
  flow : Flow
  graph : OutlivesGraph
  liveness : Liveness
  lifetimes : LifetimeSets
  uninitialized : Uninitialized
  loans : ActiveLoans

/-- Why a body has no analysis. -/
inductive Failure where
  | malformed (malformed : Malformed)
  | fault (fault : Fault)
  deriving DecidableEq, Repr

/-- Run the analyses of a body that is known to be valid. -/
def Body.analyzeValid (body : Body) : Except Fault Analysis := do
  let flow ← body.flow
  let graph ← body.outlivesGraph
  let liveness ← body.liveLocals flow
  let lifetimes ← graph.solve (← body.requirements liveness) body.pointSpace
  let uninitialized ← body.uninitialized flow
  let loans ← body.trackLoans flow lifetimes
  return { body, flow, graph, liveness, lifetimes, uninitialized, loans }

def Body.analyze (body : Body) : Except Failure Analysis :=
  match body.validate with
  | .error malformed => .error (.malformed malformed)
  | .ok () =>
      match body.analyzeValid with
      | .error fault => .error (.fault fault)
      | .ok analysis => .ok analysis

namespace Analysis

def loansAt (analysis : Analysis) (label : Nat) : List Loan :=
  analysis.loans.activeAt analysis.lifetimes label

def scan (analysis : Analysis) (family : Family) : Scan Unit :=
  let body := analysis.body
  let reachable := analysis.flow.reachable
  match family with
  | .initialization => body.checkInitialized reachable analysis.uninitialized
  | .mutability => body.checkWritable reachable
  | .lifetimes => body.checkSignature analysis.lifetimes
  | .aliasing => body.checkAliasing reachable analysis.lifetimes analysis.loans

/-- The violation that a family of rules finds first. -/
def firstViolation (analysis : Analysis) (family : Family) : Except Fault (Option Violation) :=
  match analysis.scan family with
  | .ok () => .ok none
  | .error (.fault fault) => .error fault
  | .error (.complaint loc complaint) =>
      return some { loc, kind := complaint.kind, message := ← analysis.body.word complaint }

end Analysis

/-- What became of a family of rules. -/
inductive Outcome where
  | skipped
  | passed
  | violated (violation : Violation)
  deriving DecidableEq, Repr

def Outcome.violation? : Outcome → Option Violation
  | violated violation => some violation
  | _ => none

/-- Apply the given families in turn, up to the first violation.  `disabled`
lists the names of families that are passed over. -/
def Analysis.applyFamilies (analysis : Analysis) (disabled : List String) :
    List Family → Except Fault (List (Family × Outcome))
  | [] => .ok []
  | family :: rest =>
      if disabled.contains family.name then
        return (family, .skipped) :: (← analysis.applyFamilies disabled rest)
      else do
        match ← analysis.firstViolation family with
        | some violation => return [(family, .violated violation)]
        | none => return (family, .passed) :: (← analysis.applyFamilies disabled rest)

/-- An analysis together with what became of the rules. -/
structure Report where
  analysis : Analysis
  outcomes : List (Family × Outcome)

namespace Report

def violation? (report : Report) : Option Violation :=
  report.outcomes.findSome? fun outcome => outcome.2.violation?

end Report

/-- Why a body is not accepted. -/
inductive Rejection where
  | malformed (malformed : Malformed)
  | violation (violation : Violation)
  deriving DecidableEq, Repr

/-- A rejection as it is shown. -/
def Rejection.diagnostic : Rejection → Diagnostic
  | malformed cause => .plain cause.message
  | violation found => .violation found

namespace Body

/-- Analyze a body and apply the families of rules that are not disabled. -/
def report (body : Body) (disabled : List String) : Except Failure Report :=
  match body.analyze with
  | .error failure => .error failure
  | .ok analysis =>
      match analysis.applyFamilies disabled Family.all with
      | .error fault => .error (.fault fault)
      | .ok outcomes => .ok { analysis, outcomes }

/-- Check a body: the reason for which it is rejected, or none if it is
accepted. -/
def check (body : Body) (disabled : List String) : Except Fault (Option Rejection) :=
  match body.report disabled with
  | .error (.malformed malformed) => .ok (some (.malformed malformed))
  | .error (.fault fault) => .error fault
  | .ok report => .ok (report.violation?.map .violation)

end Body
end BorrowChecker
