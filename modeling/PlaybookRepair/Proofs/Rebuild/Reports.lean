import PlaybookRepair.Proofs.Rebuild.FlatVars
import PlaybookRepair.Proofs.Rebuild.Tokens
import PlaybookRepair.Proofs.Tracker.Reports

/-!
# The reports of a rebuild

A rebuild reads the lines of the source one after the other and reports nothing but the line that it
reads, so what it has reported is made up of the reports of the lines so far (`Reported`). Reports
are therefore in the order of the lines, each shows the line that it names, and no line is reported
more than twice (`Reported.faithful`). The tracker and the rebuild of variables both report like
this; the main statement is `reports_faithful`.
-/

namespace PlaybookRepair

/-- The line is neither blank nor a comment. -/
def Line.MayBeReported (line : Line) : Prop := line.content ≠ [] ∧ line.content.head? ≠ some '#'

/-- The reports come from the given lines, in their order: at most two from each, and none from a
blank line or a comment. -/
inductive Reported : List Line → List Ambiguity → Prop
  | start : Reported [] []
  | line {lines : List Line} {reports : List Ambiguity} {line : Line}
      {reasons : List AmbiguityReason} (earlier : Reported lines reports)
      (atMostTwice : reasons.length ≤ 2) (mayBe : reasons = [] ∨ line.MayBeReported) :
      Reported (lines ++ [line]) (reports ++ reasons.map line.report)

/-- Reports are faithful to a text if they are in the order of its lines, if each of them names a
line of the text and shows the trimmed content of just that line, which is neither blank nor a
comment, and if no line is named more than twice. -/
structure FaithfulReports (text : Text) (reports : List Ambiguity) : Prop where
  ordered : reports.Pairwise fun first second => first.line ≤ second.line
  inRange : ∀ report ∈ reports, 1 ≤ report.line ∧ report.line ≤ (Text.lines text).length
  content : ∀ report ∈ reports,
    (Text.lines text)[report.line - 1]?.map Text.trim = some report.content
  significant : ∀ report ∈ reports, report.content ≠ [] ∧ report.content.head? ≠ some '#'
  atMostTwice : ∀ number, reports.countP (·.line = number) ≤ 2

namespace Reported

variable {lines : List Line} {reports : List Ambiguity}

/-- Every report is one of a line with content that is no comment. -/
theorem exists_line (reported : Reported lines reports) :
    ∀ report ∈ reports, ∃ line ∈ lines, line.MayBeReported ∧
      report.line = line.number ∧ report.content = line.content := by
  induction reported with
  | start => exact List.forall_mem_nil _
  | @line lines reports line reasons _ _ mayBe ih =>
      intro report member
      rcases List.mem_append.mp member with earlier | last
      · obtain ⟨other, isLine, shown⟩ := ih report earlier
        exact ⟨other, List.mem_append_left _ isLine, shown⟩
      · obtain ⟨reason, isReason, rfl⟩ := List.mem_map.mp last
        have isReported := mayBe.resolve_left (List.ne_nil_of_mem isReason)
        exact ⟨line, List.mem_append_right _ (List.mem_singleton_self line), isReported, rfl, rfl⟩

variable (numbered : lines.Pairwise fun first second => first.number < second.number)
include numbered

theorem pairwise (reported : Reported lines reports) :
    reports.Pairwise fun first second => first.line ≤ second.line := by
  induction reported with
  | start => exact .nil
  | @line lines reports line reasons earlier _ _ ih =>
      obtain ⟨before, _, below⟩ := List.pairwise_append.mp numbered
      refine List.pairwise_append.mpr ⟨ih before, ?_, ?_⟩
      · apply List.pairwise_map.mpr
        exact List.pairwise_of_forall fun _ _ => Nat.le_refl line.number
      · intro first isEarlier second isLast
        obtain ⟨other, isLine, _, number, _⟩ := earlier.exists_line first isEarlier
        obtain ⟨reason, _, rfl⟩ := List.mem_map.mp isLast
        rw [number]
        exact Nat.le_of_lt (below other isLine line (List.mem_singleton_self line))

/-- A line that has reports is not named by those of the lines before it. -/
theorem countP_le_two (reported : Reported lines reports) (number : Nat) :
    reports.countP (·.line = number) ≤ 2 := by
  induction reported with
  | start => exact Nat.zero_le 2
  | @line lines reports line reasons earlier atMostTwice _ ih =>
      obtain ⟨before, _, below⟩ := List.pairwise_append.mp numbered
      rw [List.countP_append]
      by_cases isLine : line.number = number
      · have none : reports.countP (·.line = number) = 0 := by
          apply List.countP_eq_zero.mpr
          intro report member
          obtain ⟨other, isOther, _, named, _⟩ := earlier.exists_line report member
          have smaller := below other isOther line (List.mem_singleton_self line)
          rw [decide_eq_true_eq, named]
          omega
        have some : (reasons.map line.report).countP (·.line = number) ≤ reasons.length := by
          rw [← List.length_map (f := line.report)]
          exact List.countP_le_length
        omega
      · have none : (reasons.map line.report).countP (·.line = number) = 0 := by
          apply List.countP_eq_zero.mpr
          intro report member
          obtain ⟨reason, _, rfl⟩ := List.mem_map.mp member
          rw [decide_eq_true_eq]
          exact isLine
        have fewer := ih before
        omega

end Reported

namespace Line

variable {text : Text}

theorem pairwise_number_ofText (text : Text) :
    (ofText text).Pairwise fun first second => first.number < second.number := by
  have numbers : (ofText text).map number = List.range' 1 (Text.lines text).length := by
    rw [ofText, List.map_map]
    exact List.zipIdx_map_snd 1 _
  apply List.pairwise_map.mp
  rw [numbers]
  exact List.pairwise_lt_range'

/-- The number of a line is its position in the text, from 1. -/
theorem number_of_mem_ofText {line : Line} (member : line ∈ ofText text) :
    1 ≤ line.number ∧ line.number ≤ (Text.lines text).length ∧
      (Text.lines text)[line.number - 1]? = some line.raw := by
  obtain ⟨⟨raw, position⟩, numbered, rfl⟩ := List.mem_map.mp member
  obtain ⟨first, found⟩ := List.mem_zipIdx_iff_le_and_getElem?_sub.mp numbered
  obtain ⟨inRange, _⟩ := List.getElem?_eq_some_iff.mp found
  exact ⟨first, by dsimp only at *; omega, found⟩

end Line

/-- What is reported of the lines of a text one by one is faithful to the text. -/
theorem Reported.faithful {text : Text} {reports : List Ambiguity}
    (reported : Reported (Line.ofText text) reports) : FaithfulReports text reports := by
  have numbered := Line.pairwise_number_ofText text
  have shown : ∀ report ∈ reports, 1 ≤ report.line ∧ report.line ≤ (Text.lines text).length ∧
      (Text.lines text)[report.line - 1]?.map Text.trim = some report.content ∧
      report.content ≠ [] ∧ report.content.head? ≠ some '#' := by
    intro report member
    obtain ⟨line, isLine, mayBe, number, content⟩ := reported.exists_line report member
    obtain ⟨first, last, raw⟩ := Line.number_of_mem_ofText isLine
    rw [number, content, raw]
    exact ⟨first, last, rfl, mayBe⟩
  exact
    { ordered := reported.pairwise numbered
      inRange := fun report member => ⟨(shown report member).1, (shown report member).2.1⟩
      content := fun report member => (shown report member).2.2.1
      significant := fun report member => (shown report member).2.2.2
      atMostTwice := reported.countP_le_two numbered }

/-! ## The tracker -/

namespace Rebuild

/-- No role admits more than two reports, and those of blank lines and comments admit none. -/
theorem mostReports_le (role : Role) :
    role.mostReports ≤ 2 ∧ (role.mostReports = 0 ∨ role ≠ .blank ∧ role ≠ .comment) := by
  cases role <;> simp [Role.mostReports]

theorem reported_tokens (mode : RebuildMode) (kind : FileKind) (text : Text) :
    ∀ done later, tokens mode kind text = done ++ later →
      Reported (done.map (·.line)) (trackerAfter mode kind done).ambiguities := by
  refine invariant mode kind text .start ?_
  intro done token later split ih
  have classified : token.Classified :=
    classified_of_mem (split ▸ List.mem_append_right _ List.mem_cons_self)
  obtain ⟨reasons, within, added⟩ := (trackerAfter mode kind done).reports_push token
  obtain ⟨atMostTwice, reportable⟩ := mostReports_le token.role
  rw [trackerAfter_concat, List.map_append, added]
  refine .line ih (Nat.le_trans within atMostTwice) ?_
  rcases reportable with never | ⟨notBlank, notComment⟩
  · left
    rw [never] at within
    exact List.eq_nil_of_length_eq_zero (Nat.le_zero.mp within)
  · right
    exact ⟨mt classified.role_eq_blank_iff.mpr notBlank,
      mt classified.role_eq_comment_iff.mpr notComment⟩

/-- What a rebuild reports comes from the lines of the text. -/
theorem reported_rebuild (mode : RebuildMode) (kind : FileKind) (text : Text) :
    Reported (Line.ofText text) (rebuild mode kind text).ambiguities := by
  have reported := reported_tokens mode kind text (tokens mode kind text) []
    (List.append_nil _).symm
  rw [tokens_lines] at reported
  rw [rebuild_eq, Tracker.finish, (Tracker.flushShell_state _).2.2]
  exact reported

end Rebuild

/-! ## Variables -/

namespace VarsRebuild

/-- A line with a key is neither blank nor a comment. -/
theorem mayBeReported_of_key {line : Line} {key : Text}
    (found : (LineFacts.ofLine line).key = some key) : line.MayBeReported := by
  have noKey {content : Text} (same : line.content = content)
      (none : KeyedLine.splitKeyValue? content = none)
      (notDashed : LineFacts.isDashed content = false) : False := by
    simp [LineFacts.ofLine, same, notDashed, none] at found
  constructor
  · intro empty
    exact noKey empty rfl rfl
  · intro sign
    obtain ⟨rest, content⟩ := List.head?_eq_some_iff.mp sign
    exact noKey content rfl rfl

/-- A line is reported at most twice, and only if it has a key. -/
theorem reports_push (state : State) (line : Line) :
    ∃ reasons : List AmbiguityReason, reasons.length ≤ 2 ∧
      (reasons = [] ∨ line.MayBeReported) ∧
      (state.push line).ambiguities = state.ambiguities ++ reasons.map line.report := by
  have silent : ∃ reasons : List AmbiguityReason, reasons.length ≤ 2 ∧
      (reasons = [] ∨ line.MayBeReported) ∧
      state.ambiguities = state.ambiguities ++ reasons.map line.report :=
    ⟨[], by decide, .inl rfl, (List.append_nil _).symm⟩
  unfold State.push
  dsimp only
  split
  · exact silent
  · next key found =>
      have mayBe := mayBeReported_of_key found
      split
      · exact silent
      · split
        · exact ⟨[.duplicateVariable], by decide, .inr mayBe, rfl⟩
        · rw [ambiguities_keep]
          split <;> split
          · exact ⟨[.nestedVariable], by decide, .inr mayBe, rfl⟩
          · exact ⟨[.nestedVariable, .unparseableValue], by decide, .inr mayBe, rfl⟩
          · exact ⟨[], by decide, .inl rfl, rfl⟩
          · exact ⟨[.unparseableValue], by decide, .inr mayBe, rfl⟩

/-- What a rebuild of variables reports comes from the lines of the text. -/
theorem reported_run (text : Text) : Reported (Line.ofText text) (run text).ambiguities := by
  have reported (lines : List Line) :
      Reported lines (lines.foldl State.push {}).ambiguities := by
    induction lines using List.reverseRecOn with
    | nil => exact .start
    | append_singleton lines line ih =>
        obtain ⟨reasons, atMostTwice, mayBe, added⟩ := reports_push (lines.foldl State.push {}) line
        rw [List.foldl_append, List.foldl_cons, List.foldl_nil, added]
        exact .line ih atMostTwice mayBe
  exact reported (Line.ofText text)

end VarsRebuild

/-- **Reports are faithful.** What is reported of a text is in the order of its lines, each report
names a line of the text, shows its content and is neither of a blank line nor of a comment, and no
line is reported more than twice, whether the text is rebuilt by the tracker, in either mode and as
any kind of file, or as a file of variables. -/
theorem reports_faithful (text : Text) :
    (∀ mode kind, FaithfulReports text (rebuild mode kind text).ambiguities) ∧
      FaithfulReports text (rebuildVars text).ambiguities := by
  constructor
  · intro mode kind
    exact (Rebuild.reported_rebuild mode kind text).faithful
  · exact (VarsRebuild.reported_run text).faithful

end PlaybookRepair
