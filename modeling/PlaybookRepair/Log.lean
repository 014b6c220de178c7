import PlaybookRepair.Text.Plain

/-!
# Log entries

What happens on the way to a result is told in log entries. Each has a level; how talkative the log
is decides up to which level entries are kept.
-/

namespace PlaybookRepair

/-- How important a log entry is. -/
inductive LogLevel
  | warn
  | info
  | debug
deriving Repr, DecidableEq

namespace LogLevel

/-- The name of a level. -/
def name : LogLevel → String
  | warn => "WARN"
  | info => "INFO"
  | debug => "DEBUG"

/-- How often more talk has to be asked for until entries of a level are kept. -/
def rank : LogLevel → Nat
  | warn => 0
  | info => 1
  | debug => 2

end LogLevel

/-- Something worth telling. -/
structure LogEntry where
  level : LogLevel
  message : String
deriving Repr, DecidableEq

namespace LogEntry

/-- The entry as a line, without anything that only a terminal would obey. -/
def shown (entry : LogEntry) : String :=
  entry.level.name ++ " " ++ String.ofList (Text.plain entry.message.toList)

/-- Whether an entry is kept if more talk has been asked for the given number of times. -/
def keptAt (verbosity : Nat) (entry : LogEntry) : Bool := entry.level.rank ≤ verbosity

end LogEntry

end PlaybookRepair
