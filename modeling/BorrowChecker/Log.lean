import BorrowChecker.Fault

namespace BorrowChecker

/-!
Log entries and the levels at which they are kept.

Levels are numbered from one, errors only, to five, everything.  A log may be
switched off altogether; such a log keeps nothing at any level.
-/

/-- The importance of an entry. -/
inductive Severity where
  | error
  | warn
  | info
  | debug
  | trace
  deriving DecidableEq, Repr, Inhabited

namespace Severity

/-- The lowest level that keeps entries of a severity. -/
def level : Severity → Int
  | error => 1
  | warn => 2
  | info => 3
  | debug => 4
  | trace => 5

/-- What an entry starts with. -/
def tag : Severity → String
  | error => "[ERROR] "
  | warn => "[WARN] "
  | info => "[INFO] "
  | debug => "[DEBUG] "
  | trace => "[TRACE] "

end Severity

/-- A message to be logged. -/
structure LogEntry where
  severity : Severity
  message : String
  deriving DecidableEq, Repr, Inhabited

namespace LogEntry

/-- The message without the line end that closes it, if there is one. -/
def line (entry : LogEntry) : String :=
  entry.severity.tag ++ match entry.message.toList.reverse with
    | '\n' :: rest => String.ofList rest.reverse
    | _ => entry.message

/-- Whether a log of the given level keeps an entry.  A log without a level is
switched off. -/
def isKept (level : Option Int) (entry : LogEntry) : Bool :=
  level.any fun level => decide (entry.severity.level ≤ level)

end LogEntry

def keptLines (level : Option Int) (entries : List LogEntry) : List String :=
  (entries.filter (LogEntry.isKept level)).map LogEntry.line

/-- A log that writes to one of several numbered sinks. -/
structure LogGroup where
  level : Option Int
  sink : Nat := 0
  deriving DecidableEq, Repr, Inhabited

namespace LogGroup

/-- The lines an entry adds, with the sink they go to. -/
def write (group : LogGroup) (entry : LogEntry) : List (Nat × String) :=
  (keptLines group.level [entry]).map fun line => (group.sink, line)

/-- Write to another sink from now on.  A log that is switched off has none. -/
def redirect (group : LogGroup) (sink : Nat) : Except Fault LogGroup :=
  if group.level.isSome then .ok { group with sink } else .error .absent

/-- Whether entries of every severity are kept. -/
def keepsTrace (group : LogGroup) : Bool :=
  group.level.any fun level => decide (Severity.trace.level ≤ level)

end LogGroup
end BorrowChecker
