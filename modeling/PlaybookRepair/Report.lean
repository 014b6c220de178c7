import PlaybookRepair.Repair

/-!
# Reports

A report says what became of one file: its status, what it was found to be, how it was repaired and
whether it was overwritten. A file that could not be read has no kind; one whose repaired text could
not be written keeps the kind and the strategy of the repair.
-/

namespace PlaybookRepair

/-- What became of a file. -/
inductive FileStatus
  | valid
  | fixed
  | failed
  /-- The file could not be read, or its repaired text could not be written. -/
  | ioError
deriving Repr, DecidableEq

namespace FileStatus

/-- The status of a file whose repair came to the given outcome. -/
def ofRepair : RepairStatus → FileStatus
  | .valid => valid
  | .fixed => fixed
  | .failed => failed

/-- The name of a status. -/
def name : FileStatus → String
  | valid => "valid"
  | fixed => "fixed"
  | failed => "failed"
  | ioError => "io-error"

/-- Whether a status counts against a run. -/
def isFailure : FileStatus → Bool
  | valid | fixed => false
  | failed | ioError => true

end FileStatus

/-- What became of one file. -/
structure Report where
  path : Text
  status : FileStatus
  kind : Option FileKind := none
  strategy : Strategy := .untouched
  diagnostic : Option String := none
  /-- Whether the file was overwritten. -/
  written : Bool := false
deriving Repr, DecidableEq

namespace Report

/-- The width of the column of statuses. -/
def statusWidth : Nat := 8

/-- The name of the status, filled up with blanks to the width of its column. -/
def statusColumn (report : Report) : String :=
  let name := report.status.name
  name ++ String.ofList (List.replicate (statusWidth - name.length) ' ')

/-- What is said about the file besides its status: its kind, the strategy that repaired it and
whether it was overwritten. -/
def details (report : Report) : List String :=
  (report.kind.map FileKind.name).toList ++
    (if report.strategy = .untouched then [] else [report.strategy.name]) ++
    (if report.written then ["written"] else [])

/-- The report as a line. Only a failure shows its diagnostic. -/
def shown (report : Report) : String :=
  let details := report.details
  let diagnostic := if report.status.isFailure then report.diagnostic else none
  report.statusColumn ++ " " ++ String.ofList report.path ++
    (if details.isEmpty then "" else " (" ++ ", ".intercalate details ++ ")") ++
    (diagnostic.map (": " ++ ·)).getD ""

end Report

end PlaybookRepair
