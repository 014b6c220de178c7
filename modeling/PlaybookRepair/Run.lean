import PlaybookRepair.Action
import PlaybookRepair.Outcome
import PlaybookRepair.WritePolicy

/-!
# Runs

A run repairs files one after the other. Each is read, repaired and, if the write policy asks for it
and the text has changed, copied to its backup and overwritten. What goes wrong with one file ends
in its report and does not keep the others from being repaired.
-/

namespace PlaybookRepair

/-- How a run treats its files. -/
structure RunOptions where
  policy : WritePolicy := .repaired
  /-- What the name of a backup copy has in addition; without it no backup is taken. -/
  backupSuffix : Option Text := none
  /-- The number of files to work on at the same time; zero leaves it open. No result depends on
  it. -/
  jobs : Nat := 0
  metaDefaults : MetaDefaults := {}
deriving Repr, DecidableEq

namespace Repair.Course

/-- What the log tells about the course of a repair. -/
def entries (path : Path) (course : Course) : List LogEntry :=
  let path := String.ofList path
  let result := course.result
  match course.rejection with
  | none => [⟨.debug, s!"{path}: already valid {result.kind.name}"⟩]
  | some rejection =>
    ⟨.debug, s!"{path}: {result.kind.name} does not verify: {rejection.diagnostic}"⟩ ::
      (course.attempts.map fun attempt =>
        ⟨.debug, s!"{path}: {attempt.strategy.name} candidate rejected: {attempt.rejection.diagnostic}"⟩) ++
      (if result.ok then [⟨.info, s!"{path}: repaired with {result.strategy.name} strategy"⟩]
      else [])

end Repair.Course

/-- A log entry about a file. -/
def LogEntry.about (path : Path) (level : LogLevel) (message : String) : LogEntry :=
  ⟨level, String.ofList path ++ ": " ++ message⟩

namespace Report

/-- The report on a file that could not be read. -/
def unread (path : Path) (error : FileError) : Report where
  path
  status := .ioError
  diagnostic := some error.message

/-- The report on a repaired file that has not been overwritten. -/
def repaired (path : Path) (result : RepairResult) : Report where
  path
  status := .ofRepair result.status
  kind := some result.kind
  strategy := result.strategy
  diagnostic := result.diagnostic

/-- The report on a file that was to be overwritten. -/
def afterWriting (report : Report) : Except FileError Unit → Report
  | .ok () => { report with written := true }
  | .error error => { report with status := .ioError, diagnostic := some error.message }

end Report

namespace Run

/-- Repairs a text and logs the course of the repair. -/
def repairLogged (defaults : MetaDefaults) (path : Path) (text : Text) : Action RepairResult := do
  let course := Repair.course (.detect path text) defaults text
  .logAll (course.entries path)
  return course.result

/-- Overwrites a file, after a backup if there is to be one. -/
def writeBack (path : Path) (text : Text) (backupSuffix : Option Text) :
    Action (Except FileError Unit) := do
  match backupSuffix with
  | none => .request (.write path text)
  | some suffix =>
    match ← .request (.backUp path suffix) with
    | .error error => return .error error
    | .ok backup =>
      let names := (String.ofList path, String.ofList backup)
      .log .debug ("backed up " ++ names.1 ++ " to " ++ names.2)
      .request (.write path text)

/-- Whether a result replaces the text that it was made of. -/
def replaces (policy : WritePolicy) (result : RepairResult) (text : Text) : Bool :=
  policy.writes result.status && result.text ≠ text

/-- Repairs one file. -/
def repairFile (options : RunOptions) (path : Path) : Action Report := do
  match ← .request (.read path) with
  | .error error =>
    .logAll [.about path .warn error.message]
    return .unread path error
  | .ok text =>
    let result ← repairLogged options.metaDefaults path text
    .logAll (result.ambiguities.map fun ambiguity => .about path .debug ambiguity.shown)
    let report := Report.repaired path result
    if result.status = .failed then
      .logAll [.about path .warn (result.diagnostic.getD "repair failed")]
    if !replaces options.policy result text then return report
    let written ← writeBack path result.text options.backupSuffix
    if let .error error := written then
      .logAll [.about path .warn error.message]
    return report.afterWriting written

/-- Repairs the files one after the other. -/
def repairFiles (options : RunOptions) : List Path → Action Outcome
  | [] => return {}
  | path :: rest => do
    let report ← repairFile options path
    let outcome ← repairFiles options rest
    return (Outcome.push {} report).merge outcome

end Run

/-- The outcome with its reports in the order of their paths. -/
def Outcome.sorted (outcome : Outcome) : Outcome :=
  { outcome with
    reports := outcome.reports.mergeSort fun left right => Path.precedes left.path right.path }

/-- Repairs files and logs how many there are of each status. -/
def run (options : RunOptions) (paths : List Path) : Action Outcome := do
  let outcome ← Run.repairFiles options paths
  .log .info s!"{outcome.summary.total} files: {outcome.summary.counts}"
  return outcome.sorted

end PlaybookRepair
