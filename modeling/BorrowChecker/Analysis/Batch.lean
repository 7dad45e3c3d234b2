import BorrowChecker.Analysis.Transcript

namespace BorrowChecker

/-!
Checking several bodies in one go.

The bodies are independent of each other, so the results are those of checking
each by itself, in order, however the work is spread.  A batch that was cancelled
before it began checks nothing.
-/

/-- The results of a batch: one for each body, and whether the batch was cut
short. -/
structure Batch where
  results : List (Option Rejection)
  cancelled : Bool := false
  deriving Repr

def Batch.cancellation : String := "context canceled"

/-- Check a list of bodies.  An empty batch has nothing to cancel. -/
def checkBatch (bodies : List Body) (disabled : List String) (cancelled : Bool) :
    Except Fault Batch := do
  if cancelled && !bodies.isEmpty then
    return { results := bodies.map fun _ => none, cancelled := true }
  else
    return { results := ← bodies.mapM fun body => body.check disabled }

/-- The entries that checking a list of bodies logs.  Neither an empty batch nor
a cancelled one logs anything. -/
def batchEntries (bodies : List Body) (disabled : List String) (cancelled : Bool) :
    Except Fault (List LogEntry) := do
  if cancelled || bodies.isEmpty then
    return []
  else
    let entries ← bodies.mapM fun body => body.checkEntries disabled
    let closing : LogEntry :=
      { severity := .info, message := "checked " ++ toString bodies.length ++ " bodies" }
    return entries.flatten ++ [closing]

end BorrowChecker
