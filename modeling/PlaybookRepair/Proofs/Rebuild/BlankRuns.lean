import PlaybookRepair.Proofs.Outline.Document
import PlaybookRepair.Proofs.Rebuild.OutputLines
import PlaybookRepair.Proofs.Rebuild.Rejoining

/-!
# Runs of blank lines

The incremental mode keeps one of several blank lines in a row. It does not look at what has been
written when it closes a shell block: if the block is open again, its lines go to their earlier
place, and the blank line for those with which it ends goes to the end of the document, where a
blank line may stand already. Nothing else lets blank lines come to stand in a row outside of block
scalars (`collapsed_linesAfter`), and of those that do, only the ones above a line that is written
below all others stay in the document (`collapsed_keptLines`). `blank_lines_collapse` says so of the
document.
-/

namespace PlaybookRepair

open OutputLine (Collapsed dropEmptyEnd)

namespace Rebuild

/-- The tracker and the lines that it has written after one more line. -/
def pushWithLines (state : Tracker × List OutputLine) (token : LineToken) :
    Tracker × List OutputLine :=
  (state.1.push token, state.1.pushLines state.2 token)

/-- The lines that the incremental mode has written after some classified lines. -/
def linesAfter (kind : FileKind) (done : List LineToken) : List OutputLine :=
  (done.foldl pushWithLines (.start .incremental kind, [])).2

/-- The lines of an incrementally rebuilt document. -/
def outputLines (kind : FileKind) (text : Text) : List OutputLine :=
  let done := tokens .incremental kind text
  (trackerAfter .incremental kind done).finishedOutput (linesAfter kind done)

/-- The line closes a shell block that is open again, by which a blank line is written below a blank
line. -/
def Doubles (kind : FileKind) (done : List LineToken) (token : LineToken) : Prop :=
  (trackerAfter .incremental kind done).extendShell? token = none ∧
    (trackerAfter .incremental kind done).DoublesBlank (linesAfter kind done)

/-- The line is written below all others or opens a shell block there. -/
def GrowsBelow (kind : FileKind) (done : List LineToken) (token : LineToken) : Prop :=
  (trackerAfter .incremental kind done).extendShell? token = none ∧
    ((trackerAfter .incremental kind done).push token).WrittenBelow token

/-- The written lines that would be kept if the document ended after some classified lines. -/
def keptLines (kind : FileKind) (done : List LineToken) : List OutputLine :=
  dropEmptyEnd ((trackerAfter .incremental kind done).flushLines (linesAfter kind done))

theorem foldl_pushWithLines_fst (state : Tracker × List OutputLine) (done : List LineToken) :
    (done.foldl pushWithLines state).1 = done.foldl Tracker.push state.1 := by
  induction done generalizing state with
  | nil => rfl
  | cons token rest ih => exact ih (pushWithLines state token)

theorem linesAfter_concat (kind : FileKind) (done : List LineToken) (token : LineToken) :
    linesAfter kind (done ++ [token]) =
      (trackerAfter .incremental kind done).pushLines (linesAfter kind done) token := by
  rw [linesAfter, List.foldl_append, List.foldl_cons, List.foldl_nil, pushWithLines,
    foldl_pushWithLines_fst]
  rfl

/-- There is no last line of a part of no lines. -/
theorem forall_prefix_nil {property : List LineToken → LineToken → Prop} :
    ∀ before last, before ++ [last] <+: [] → property before last := by
  intro before last isPart
  cases (List.append_eq_nil_iff.mp (List.prefix_nil.mp isPart)).2

/-- What holds of the last line of every part of some lines holds of every part of the lines but the
last one, and of all lines. -/
theorem forall_prefix_concat {property : List LineToken → LineToken → Prop}
    {done : List LineToken} {token : LineToken} :
    (∀ before last, before ++ [last] <+: done ++ [token] → property before last) ↔
      (∀ before last, before ++ [last] <+: done → property before last) ∧
        property done token := by
  constructor
  · intro all
    exact ⟨fun before last isPart => all before last (isPart.trans (List.prefix_append _ _)),
      all done token List.prefix_rfl⟩
  · rintro ⟨inside, atEnd⟩ before last isPart
    rcases List.prefix_concat_iff.mp isPart with same | isPart
    · obtain ⟨rfl, isToken⟩ := List.append_inj' same rfl
      obtain rfl := List.singleton_inj.mp isToken
      exact atEnd
    · exact inside before last isPart

section

variable {kind : FileKind} {text : Text}

/-- In a run the open shell block is written as a block. -/
theorem renders_run {done later : List LineToken}
    (split : tokens .incremental kind text = done ++ later) :
    (trackerAfter .incremental kind done).Renders := by
  intro block isOpen placement
  obtain ⟨kept, ⟨pieces, recorded, account⟩, _⟩ :=
    ledger_run .incremental kind text done later split
  obtain ⟨above, below, _, opener, lines, rfl, _⟩ := recorded.of_open isOpen
  exact OutputLine.isBlock_ofShell account.sound_between.1 _ placement

/-- At every point of a run the lines follow the tracker. -/
theorem marks_run : ∀ done later, tokens .incremental kind text = done ++ later →
    (trackerAfter .incremental kind done).Marks (linesAfter kind done) := by
  refine invariant .incremental kind text ⟨rfl, nofun, nofun⟩ ?_
  intro done token later split marks
  have classified : token.Classified :=
    classified_of_mem (split ▸ List.mem_append_right _ List.mem_cons_self)
  have renders := renders_run split
  have fresh := reopened_flushShell .incremental kind text split
  rw [trackerAfter_concat, linesAfter_concat]
  cases absorbs : (trackerAfter .incremental kind done).extendShell? token with
  | some extended =>
      rw [Tracker.push_of_absorbed absorbs, Tracker.pushLines_of_absorbed absorbs]
      exact marks.absorb absorbs
  | none =>
      rw [Tracker.push_of_outside absorbs, Tracker.pushLines_of_outside absorbs]
      exact (marks.flushShell renders).pushOutsideShell (Tracker.flushShell_state _).1 fresh
        classified

/-- **Blank lines in a row.** They come about when a line closes a shell block that is open again,
and only then. -/
theorem collapsed_linesAfter : ∀ done later, tokens .incremental kind text = done ++ later →
    (Collapsed (linesAfter kind done) ↔
      ∀ earlier token, earlier ++ [token] <+: done → ¬ Doubles kind earlier token) := by
  refine invariant .incremental kind text ?_ ?_
  · exact iff_of_true List.isChain_nil forall_prefix_nil
  · intro done token later split ih
    have classified : token.Classified :=
      classified_of_mem (split ▸ List.mem_append_right _ List.mem_cons_self)
    have marks := marks_run done _ split
    have renders := renders_run split
    have isMode := trackerAfter_mode .incremental kind text done _ split
    rw [forall_prefix_concat, ← ih, linesAfter_concat, Doubles]
    cases absorbs : (trackerAfter .incremental kind done).extendShell? token with
    | some extended =>
        rw [Tracker.pushLines_of_absorbed absorbs]
        exact (and_iff_left fun doubles => nomatch doubles.1).symm
    | none =>
        rw [Tracker.pushLines_of_outside absorbs,
          Tracker.collapsed_pushOutsideShell (marks.flushShell renders) classified,
          Tracker.collapsed_flushLines marks renders isMode, and_iff_right rfl]

/-- All written lines are kept when a line is written below all others. Any other line leaves those
that are kept as they are, but for a block that it joins. -/
theorem collapsed_keptLines_concat {done later : List LineToken} {token : LineToken}
    (split : tokens .incremental kind text = done ++ token :: later) :
    (GrowsBelow kind done token →
      (Collapsed (keptLines kind (done ++ [token])) ↔
        Collapsed (linesAfter kind (done ++ [token])))) ∧
    (¬ GrowsBelow kind done token →
      (Collapsed (keptLines kind (done ++ [token])) ↔ Collapsed (keptLines kind done))) := by
  have classified : token.Classified :=
    classified_of_mem (split ▸ List.mem_append_right _ List.mem_cons_self)
  have marks := marks_run done _ split
  have renders := renders_run split
  have fresh := reopened_flushShell .incremental kind text split
  have isMode := trackerAfter_mode .incremental kind text done _ split
  have splitAfter : tokens .incremental kind text = (done ++ [token]) ++ later := by
    rw [split, List.append_assoc, List.singleton_append]
  have rendersAfter := renders_run splitAfter
  rw [keptLines, keptLines, GrowsBelow, linesAfter_concat]
  rw [trackerAfter_concat] at rendersAfter ⊢
  generalize trackerAfter .incremental kind done = tracker at *
  cases absorbs : tracker.extendShell? token with
  | some extended =>
      rw [Tracker.push_of_absorbed absorbs] at rendersAfter ⊢
      rw [Tracker.pushLines_of_absorbed absorbs]
      exact ⟨fun grows => (nomatch grows.1), fun _ =>
        Tracker.collapsed_kept_absorb marks absorbs renders rendersAfter⟩
  | none =>
      rw [Tracker.push_of_outside absorbs] at rendersAfter ⊢
      obtain ⟨shell, sameMode, _⟩ := tracker.flushShell_state
      rw [Tracker.pushLines_of_outside absorbs, and_iff_right rfl]
      exact Tracker.collapsed_kept_pushOutsideShell (marks.flushShell renders) shell fresh
        (sameMode.trans isMode) classified rfl rendersAfter

/-- Of the blank lines in a row those are kept that come about before or when a line is written
below all others. -/
theorem collapsed_keptLines : ∀ done later, tokens .incremental kind text = done ++ later →
    (Collapsed (keptLines kind done) ↔
      ∀ grown next, grown ++ [next] <+: done → GrowsBelow kind grown next →
        ∀ earlier token, earlier ++ [token] <+: grown ++ [next] →
          ¬ Doubles kind earlier token) := by
  refine invariant .incremental kind text ?_ ?_
  · exact iff_of_true List.isChain_nil forall_prefix_nil
  · intro done token later split ih
    obtain ⟨below, elsewhere⟩ := collapsed_keptLines_concat split
    have splitAfter : tokens .incremental kind text = (done ++ [token]) ++ later := by
      rw [split, List.append_assoc, List.singleton_append]
    rw [forall_prefix_concat]
    by_cases grows : GrowsBelow kind done token
    · rw [below grows, collapsed_linesAfter _ later splitAfter]
      constructor
      · intro all
        refine ⟨fun grown next isPart _ earlier other within => ?_, fun _ => all⟩
        exact all earlier other (within.trans (isPart.trans (List.prefix_append _ _)))
      · exact fun both => both.2 grows
    · rw [elsewhere grows, ih]
      exact (and_iff_left fun nextGrows => (grows nextGrows).elim).symm

/-- The lines of a document are those of its text. -/
theorem texts_outputLines : (outputLines kind text).map (·.text) =
    (trackerAfter .incremental kind (tokens .incremental kind text)).finishedLines := by
  have split : tokens .incremental kind text = tokens .incremental kind text ++ [] :=
    (List.append_nil _).symm
  have marks := (marks_run _ _ split).flushShell (renders_run split)
  unfold outputLines Tracker.finishedOutput Tracker.finishedLines
  dsimp only
  rw [OutputLine.map_dropEmptyEnd, marks.texts]
  split
  · rw [List.map_cons, OutputLine.map_dropEmptyEnd, marks.texts]
  · rw [OutputLine.map_dropEmptyEnd, marks.texts]

/-- A document marker above the lines does not matter. -/
theorem collapsed_outputLines : Collapsed (outputLines kind text) ↔
    Collapsed (keptLines kind (tokens .incremental kind text)) := by
  unfold outputLines Tracker.finishedOutput
  dsimp only
  split
  · exact List.isChain_cons.trans (and_iff_right fun _ _ both => nomatch both.1)
  · exact Iff.rfl

end

end Rebuild

open Rebuild in
/-- **Runs of blank lines collapse** in an incrementally rebuilt document, but for one case. Two
empty lines in a row stand outside of the block scalars of the document just if a line of the source
closes a shell block that is open again and ends with a blank line while the last line that has been
written is blank too, and this line or a later one is written below all others. -/
theorem blank_lines_collapse (kind : FileKind) (text : Text) :
    Text.pieces '\n' (rebuild .incremental kind text).text =
      (outputLines kind text).map (·.text) ++ [[]] ∧
    (¬ Collapsed (outputLines kind text) ↔
      ∃ earlier token grown next, earlier ++ [token] <+: grown ++ [next] ∧
        grown ++ [next] <+: tokens .incremental kind text ∧
        Doubles kind earlier token ∧ GrowsBelow kind grown next) := by
  constructor
  · rw [pieces_rebuild, texts_outputLines]
  · rw [collapsed_outputLines, collapsed_keptLines _ [] (List.append_nil _).symm]
    constructor
    · intro kept
      simp only [not_forall, not_not, exists_prop] at kept
      obtain ⟨grown, next, isPart, grows, earlier, token, within, doubles⟩ := kept
      exact ⟨earlier, token, grown, next, within, isPart, doubles, grows⟩
    · rintro ⟨earlier, token, grown, next, within, isPart, doubles, grows⟩ all
      exact all grown next isPart grows earlier token within doubles

/-- A shell block that is taken up again after a blank line, and ends with another one, leaves both
of them below each other. -/
theorem blank_lines_doubled : ¬ Collapsed (Rebuild.outputLines .taskList
    ("- name: a\n  shell: echo hi\n  dnf install foo\n  when: x\n\n".toList ++
      "  dnf install bar\n\n  register: y\n".toList)) := by
  decide +kernel

end PlaybookRepair
