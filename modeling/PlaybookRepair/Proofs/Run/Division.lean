import PlaybookRepair.CommandLine
import PlaybookRepair.Proofs.Outcome
import PlaybookRepair.Proofs.Run.Scan

/-!
# Divided runs

The reports of a run may be divided among parts in any way. Each part counts its own reports,
starting from the empty outcome, and the outcomes of neighbouring parts are merged, in any order
(`Division`). Outcomes form a monoid under merging, and pushing a report is merging with the outcome
of that report, so every division of the reports has the outcome of all of them one after the other
(`Division.outcome_eq`). Its summary counts the reports by status, and the exit code of the program
tells whether there are failures among them (`Division.outcome_counts`).
-/

namespace PlaybookRepair

/-! ## Counts -/

namespace Summary

/-- The counts of the given reports. -/
def counting (reports : List Report) : Summary where
  total := reports.length
  valid := reports.countP (·.status = .valid)
  fixed := reports.countP (·.status = .fixed)
  failed := reports.countP (·.status = .failed)
  ioErrors := reports.countP (·.status = .ioError)

theorem merge_assoc (first second third : Summary) :
    (first.merge second).merge third = first.merge (second.merge third) := by
  simp only [merge, Nat.add_assoc]

/-- Reports that are counted one after the other add their counts. -/
theorem foldl_count (summary : Summary) (reports : List Report) :
    reports.foldl (fun summary report => summary.count report.status) summary =
      summary.merge (counting reports) := by
  induction reports generalizing summary with
  | nil => rfl
  | cons report reports ih =>
    have one : (Summary.count {} report.status).merge (counting reports) =
        counting (report :: reports) := by
      cases status : report.status <;> simp [merge, count, counting, status, Nat.add_comm]
    rw [List.foldl_cons, ih, count_merge, one]

/-- Every report is counted under one status. -/
theorem total_counting (reports : List Report) :
    (counting reports).total = (counting reports).valid + (counting reports).fixed +
      (counting reports).failed + (counting reports).ioErrors := by
  induction reports with
  | nil => rfl
  | cons report reports ih =>
    simp only [counting] at ih
    cases status : report.status <;> simp [counting, status] <;> omega

theorem hasFailures_counting (reports : List Report) :
    (counting reports).hasFailures ↔
      ∃ report ∈ reports, report.status = .failed ∨ report.status = .ioError := by
  simp only [hasFailures, counting, gt_iff_lt, Bool.or_eq_true, decide_eq_true_eq,
    List.countP_pos_iff]
  constructor
  · rintro (⟨report, member, status⟩ | ⟨report, member, status⟩)
    · exact ⟨report, member, .inl status⟩
    · exact ⟨report, member, .inr status⟩
  · rintro ⟨report, member, status | status⟩
    · exact .inl ⟨report, member, status⟩
    · exact .inr ⟨report, member, status⟩

end Summary

namespace Outcome

theorem merge_assoc (first second third : Outcome) :
    (first.merge second).merge third = first.merge (second.merge third) := by
  simp only [merge, List.append_assoc, Summary.merge_assoc]

theorem ofReports_eq (reports : List Report) :
    ofReports reports = ⟨reports, Summary.counting reports⟩ := by
  rw [ofReports, foldl_push, Summary.foldl_count, Summary.empty_merge]
  rfl

theorem ofReports_append (first second : List Report) :
    ofReports (first ++ second) = (ofReports first).merge (ofReports second) := by
  rw [ofReports, List.foldl_append]
  change second.foldl push (ofReports first) = _
  rw [foldl_push, Summary.foldl_count, ofReports_eq second]
  rfl

end Outcome

/-! ## Divisions -/

/-- A way to divide reports among parts and to merge the outcomes of the parts. -/
inductive Division
  /-- A part counts its reports, none or any number, in order. -/
  | part (reports : List Report)
  /-- The outcomes of two neighbouring divisions are merged. -/
  | merged (left right : Division)

namespace Division

/-- The reports that are divided, in order. -/
def reports : Division → List Report
  | part reports => reports
  | merged left right => left.reports ++ right.reports

/-- What the parts come to. -/
def outcome : Division → Outcome
  | part reports => reports.foldl Outcome.push {}
  | merged left right => left.outcome.merge right.outcome

/-- A division has the outcome of its reports one after the other. -/
theorem outcome_eq (division : Division) : division.outcome = Outcome.ofReports division.reports := by
  induction division with
  | part reports => rfl
  | merged left right leftIh rightIh =>
    rw [outcome, leftIh, rightIh, reports, Outcome.ofReports_append]

end Division

/-! ## Exit codes -/

/-- The files of a run are reported one after the other. -/
theorem Run.repairFiles_eq_ofReports (options : RunOptions) (paths : List Path) (world : World) :
    ((repairFiles options paths).carryOut world).1 =
      .ofReports ((repairFiles options paths).carryOut world).1.reports := by
  induction paths generalizing world with
  | nil => rfl
  | cons path paths ih =>
    rw [carryOut_repairFiles_cons]
    obtain ⟨reports, later⟩ : ∃ reports, _ = Outcome.ofReports reports := ⟨_, ih _⟩
    have merged (report : Report) : (Outcome.push {} report).merge (.ofReports reports) =
        .ofReports (report :: reports) := (Outcome.ofReports_append [report] reports).symm
    dsimp only
    rw [later, merged, Outcome.reports_ofReports]

namespace CommandLine

theorem carryOut_forM_printLine (reports : List Report) (world : World) :
    ∃ later, (reports.forM fun report => printLine report.shown).run.carryOut world =
      (.ok (), later) := by
  induction reports generalizing world with
  | nil => exact ⟨world, rfl⟩
  | cons report reports ih =>
    change ∃ later, (printLine report.shown >>= fun _ =>
      reports.forM fun report => printLine report.shown).run.carryOut world = _
    rw [Action.carryOut_bind_of_ok rfl]
    exact ih _

/-- The log before a run says how many files there are. -/
def announced (world : World) (paths : List Path) : World :=
  { world with log := world.log ++ [⟨.info, s!"repairing {paths.length} files"⟩] }

/-- What is printed after a run does not bear on the exit code. -/
theorem carryOut_repairPaths (paths : List Path) (options : RunOptions) (world : World) :
    ((repairPaths paths options).run.carryOut world).1 =
      .ok { code := if ((run options paths).carryOut (announced world paths)).1.summary.hasFailures
        then failureCode else 0 } := by
  unfold repairPaths
  have told : (tell .info s!"repairing {paths.length} files").run.carryOut world =
    (.ok (), announced world paths) := rfl
  rw [Action.carryOut_bind_of_ok told, Action.carryOut_bind_of_ok (Action.carryOut_lift _ _)]
  obtain ⟨later, printed⟩ := carryOut_forM_printLine
    ((run options paths).carryOut (announced world paths)).1.reports
    ((run options paths).carryOut (announced world paths)).2
  rw [Action.carryOut_bind_of_ok printed]
  rfl

end CommandLine

open CommandLine (failureCode repairPaths announced) in
/-- **Divided runs.** Every division of reports has the summary of all of them one after the other, and
the same reports in the order of their paths. The summary counts the reports by status; it has
failures exactly if some file failed or could not be read or written. The summary of a run counts the
reports on its files, one each, and the program ends with the code of failures exactly if there is a
failure among them. -/
theorem Division.outcome_counts (division : Division) :
    let summary := division.outcome.summary
    let reports := division.reports
    (summary = (Outcome.ofReports reports).summary ∧
      division.outcome.sorted.reports = (Outcome.ofReports reports).sorted.reports) ∧
    (summary.total = reports.length ∧
      summary.total = summary.valid + summary.fixed + summary.failed + summary.ioErrors ∧
      summary.valid = reports.countP (·.status = .valid) ∧
      summary.fixed = reports.countP (·.status = .fixed) ∧
      summary.failed = reports.countP (·.status = .failed) ∧
      summary.ioErrors = reports.countP (·.status = .ioError)) ∧
    (summary.hasFailures ↔ ∃ report ∈ reports, report.status = .failed ∨ report.status = .ioError) ∧
    ∀ options paths world, ∃ reports : List Report, reports.map (·.path) = paths ∧
      ((run options paths).carryOut (announced world paths)).1 = (Outcome.ofReports reports).sorted ∧
      ((repairPaths paths options).run.carryOut world).1 = .ok
        { code := if ∃ report ∈ reports, report.status = .failed ∨ report.status = .ioError
          then failureCode else 0 } := by
  intro summary reports
  have whole : division.outcome = ⟨reports, Summary.counting reports⟩ :=
    division.outcome_eq.trans (Outcome.ofReports_eq reports)
  have counts : summary = Summary.counting reports := congrArg Outcome.summary whole
  refine ⟨?_, ?_, ?_, fun options paths world => ?_⟩
  · rw [← division.outcome_eq]
    exact ⟨rfl, rfl⟩
  · rw [counts]
    exact ⟨rfl, Summary.total_counting reports, rfl, rfl, rfl, rfl⟩
  · rw [counts]
    exact Summary.hasFailures_counting reports
  · have inOrder := Run.repairFiles_eq_ofReports options paths (announced world paths)
    have areOn := Run.map_path_repairFiles options paths (announced world paths)
    obtain ⟨outcome, -⟩ := Run.carryOut_run options paths (announced world paths)
    generalize ((Run.repairFiles options paths).carryOut (announced world paths)).1 = ran
      at inOrder areOn outcome
    have summed : ran.sorted.summary = Summary.counting ran.reports := by
      rw [inOrder, Outcome.ofReports_eq]
      rfl
    refine ⟨ran.reports, areOn, by rw [outcome, ← inOrder], ?_⟩
    rw [CommandLine.carryOut_repairPaths, outcome, summed]
    simp only [Summary.hasFailures_counting]

end PlaybookRepair
