import PlaybookRepair.Report

/-!
# Outcomes

The outcome of a run is the list of its reports and the count of the files of each status. Outcomes
form a monoid under merging: the counts add up and the reports are appended, so it does not matter
how the reports are divided among parts of a run.
-/

namespace PlaybookRepair

/-- How many files there are of each status. -/
structure Summary where
  total : Nat := 0
  valid : Nat := 0
  fixed : Nat := 0
  failed : Nat := 0
  ioErrors : Nat := 0
deriving Repr, DecidableEq

namespace Summary

/-- The summary after one more file of the given status. -/
def count (summary : Summary) (status : FileStatus) : Summary :=
  let summary := { summary with total := summary.total + 1 }
  match status with
  | .valid => { summary with valid := summary.valid + 1 }
  | .fixed => { summary with fixed := summary.fixed + 1 }
  | .failed => { summary with failed := summary.failed + 1 }
  | .ioError => { summary with ioErrors := summary.ioErrors + 1 }

/-- The summary of the files of two summaries. -/
def merge (left right : Summary) : Summary where
  total := left.total + right.total
  valid := left.valid + right.valid
  fixed := left.fixed + right.fixed
  failed := left.failed + right.failed
  ioErrors := left.ioErrors + right.ioErrors

/-- Whether some file failed or could not be read or written. -/
def hasFailures (summary : Summary) : Bool := summary.failed > 0 || summary.ioErrors > 0

/-- The counts by status. -/
def counts (summary : Summary) : String :=
  s!"{summary.valid} valid, {summary.fixed} fixed, {summary.failed} failed, {summary.ioErrors} io errors"

/-- The summary as a line. -/
def shown (summary : Summary) : String :=
  let noun := if summary.total = 1 then "file" else "files"
  s!"{summary.total} {noun}: {summary.counts}"

end Summary

/-- The reports of a run and their summary. -/
structure Outcome where
  reports : List Report := []
  summary : Summary := {}
deriving Repr, DecidableEq

namespace Outcome

/-- The outcome after one more report. -/
def push (outcome : Outcome) (report : Report) : Outcome where
  reports := outcome.reports ++ [report]
  summary := outcome.summary.count report.status

/-- The outcome of two parts of a run. -/
def merge (left right : Outcome) : Outcome where
  reports := left.reports ++ right.reports
  summary := left.summary.merge right.summary

/-- The outcome of the given reports. -/
def ofReports (reports : List Report) : Outcome := reports.foldl push {}

end Outcome

end PlaybookRepair
