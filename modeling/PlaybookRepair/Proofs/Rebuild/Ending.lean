import PlaybookRepair.MetaRebuild
import PlaybookRepair.Proofs.FileKind.Preamble
import PlaybookRepair.Proofs.Outline.Document
import PlaybookRepair.Proofs.Path
import PlaybookRepair.Proofs.Rebuild.FlatVars

/-!
# How rebuilt documents end

A rebuilt document is made of lines, each of them followed by a line feed, and its last line is not
empty. It therefore ends with one line feed and not with two (`endsOnce_unlines`), whichever of the
rebuilds it comes from. At no point of a run does a line that the tracker has written hold a line
feed (`isLine_out`), so the document has as many lines as the tracker has written. The main
statement is `rebuilds_endOnce`.
-/

namespace PlaybookRepair

namespace Text

/-- The text ends with one line feed and not with two. -/
structure EndsOnce (text : Text) : Prop where
  notEmpty : text ≠ []
  terminated : ['\n'] <:+ text
  once : ¬ ['\n', '\n'] <:+ text

/-- Lines that are terminated each end with one line feed unless the last of them is empty. -/
theorem endsOnce_unlines {lines : List Text} {last : Text} (isLine : last.IsLine)
    (notEmpty : last ≠ []) : EndsOnce (unlines (lines ++ [last])) := by
  obtain ⟨start, c, rfl⟩ := (List.eq_nil_or_concat' last).resolve_left notEmpty
  have text : unlines (lines ++ [start ++ [c]]) = unlines lines ++ start ++ [c, '\n'] := by
    simp [unlines, List.flatMap_append]
  rw [text]
  refine ⟨by simp, ⟨unlines lines ++ start ++ [c], by simp⟩, ?_⟩
  rintro ⟨rest, same⟩
  have ends := (List.append_inj' same rfl).2
  obtain rfl : '\n' = c := (List.cons.inj ends).1
  exact isLine (List.mem_append_right _ (List.mem_singleton_self _))

/-- A text of terminated lines has as many lines. -/
theorem length_lines_unlines {all : List Text} (areLines : ∀ line ∈ all, line.IsLine) :
    (lines (unlines all)).length = all.length := by
  obtain ⟨firsts, areFirsts, contents⟩ := exists_lines_unlines_append areLines []
  have none : lines [] = [] := rfl
  rw [List.append_nil, none, List.append_nil] at areFirsts
  rw [areFirsts, ← List.length_map (f := trim), contents, List.length_map]

end Text

namespace Tracker

theorem joinLines_eq_unlines {lines : List Text} (notEmpty : lines ≠ []) :
    joinLines lines = Text.unlines lines := by
  unfold joinLines
  induction lines with
  | nil => exact (notEmpty rfl).elim
  | cons line rest ih =>
      by_cases last : rest = []
      · rw [last, List.intercalate_singleton]
        exact (List.append_nil _).symm
      · rw [List.intercalate_cons_of_ne_nil last, List.append_assoc, List.append_assoc, ih last,
          Text.unlines, Text.unlines, List.flatMap_cons, List.append_assoc]

theorem getLast?_dropTrailingEmpty (lines : List Text) :
    (dropTrailingEmpty lines).getLast? ≠ some [] := by
  intro empty
  rw [dropTrailingEmpty, List.getLast?_reverse] at empty
  have kept := List.head?_dropWhile_not (·.isEmpty) lines.reverse
  rw [empty] at kept
  cases kept

/-- Finished lines do not end with an empty one. -/
theorem getLast?_finishedLines (tracker : Tracker) : tracker.finishedLines.getLast? ≠ some [] := by
  have kept := getLast?_dropTrailingEmpty tracker.flushShell.out
  unfold finishedLines
  dsimp only
  split
  · cases last : (dropTrailingEmpty tracker.flushShell.out).getLast? with
    | none =>
        rw [List.getLast?_eq_none_iff.mp last]
        decide
    | some line =>
        rw [List.getLast?_cons, last]
        exact last ▸ kept
  · exact kept

end Tracker

namespace Rebuild

variable {mode : RebuildMode} {kind : FileKind} {text : Text}

/-! ## Written lines hold no line feed -/

/-- With the open shell block in its place, the written lines take up one line each. -/
theorem isLine_flushShell {done later : List LineToken}
    (split : tokens mode kind text = done ++ later) :
    ∀ line ∈ (trackerAfter mode kind done).flushShell.out, line.IsLine := by
  obtain ⟨kept, ledger, sublist, _⟩ := ledger_run mode kind text done later split
  obtain ⟨⟨pieces, recorded, account⟩, _⟩ := ledger.flushShell
  generalize trackerAfter mode kind done = tracker at *
  obtain ⟨closed, isMode, _⟩ := tracker.flushShell_state
  obtain ⟨entered, _⟩ := account.accountFor tracker.mode
  have areLines : ∀ token ∈ kept, token.Classified ∧ token.line.raw.IsLine := by
    intro token member
    have isToken : token ∈ tokens mode kind text :=
      split ▸ List.mem_append_left _ (List.mem_of_mem_filter (sublist.subset member))
    exact ⟨classified_of_mem isToken, isLine_of_mem_tokens isToken⟩
  have isLeading : ∀ line ∈ leading tracker.mode, line.IsLine := by
    cases tracker.mode <;> decide
  rw [(recorded.of_closed closed).2.1, isMode, ← account.entries_texts]
  exact List.forall_mem_append.mpr ⟨isLeading, entered.isLine areLines⟩

/-- What a line does outside a shell block adds no line feed to a line. -/
theorem isLine_effect {tracker after : Tracker} {token : LineToken}
    (effect : Tracker.Effect tracker token after) (classified : token.Classified)
    (isLine : token.line.raw.IsLine) (before : ∀ line ∈ tracker.out, line.IsLine) :
    ∀ line ∈ after.out, line.IsLine := by
  have isSupplied {supplied : List Text} (areSupplied : Tracker.AreSupplied supplied) :
      ∀ line ∈ supplied, line.IsLine := by
    rcases areSupplied with rfl | rfl <;> decide
  cases effect with
  | wrote supplied line areSupplied written adds =>
      rw [adds.out]
      refine List.forall_mem_append.mpr ⟨before, List.forall_mem_append.mpr
        ⟨isSupplied areSupplied, ?_⟩⟩
      exact List.forall_mem_singleton.mpr (classified.isLine_of_writtenAs isLine written)
  | dropped _ _ adds =>
      rw [adds.out, List.append_nil]
      exact before
  | opened supplied ready block areSupplied adds _ isOpen =>
      subst isOpen
      change ∀ line ∈ ready.out, line.IsLine
      rw [adds.out]
      exact List.forall_mem_append.mpr ⟨before, isSupplied areSupplied⟩
  | rejoined ready block placement adds _ _ isOpen =>
      subst isOpen
      change ∀ line ∈ ready.out, line.IsLine
      rw [adds.out, List.append_nil]
      exact before

/-- At every point of a run, every line that has been written takes up one line. -/
theorem isLine_out : ∀ done later, tokens mode kind text = done ++ later →
    ∀ line ∈ (trackerAfter mode kind done).out, line.IsLine := by
  refine invariant mode kind text ?_ ?_
  · cases mode with
    | canonical =>
        change ∀ line ∈ ["---".toList], Text.IsLine line
        decide
    | incremental => exact List.forall_mem_nil _
  · intro done token later split ih
    have member : token ∈ tokens mode kind text :=
      split ▸ List.mem_append_right _ List.mem_cons_self
    have classified : token.Classified := classified_of_mem member
    have flushed := isLine_flushShell split
    rw [trackerAfter_concat]
    generalize trackerAfter mode kind done = tracker at *
    cases absorbs : tracker.extendShell? token with
    | some extended =>
        obtain ⟨block, absorbed, _, _, rfl⟩ := Tracker.extendShell?_eq_some absorbs
        rw [Tracker.push_of_absorbed absorbs]
        exact ih
    | none =>
        rw [Tracker.push_of_outside absorbs]
        by_cases isBlank : token.role = .blank
        · rw [Tracker.pushOutsideShell, if_pos isBlank]
          rcases tracker.flushShell.adds_pushBlank with adds | adds
          · rw [adds.out, List.append_nil]
            exact flushed
          · rw [adds.out]
            exact List.forall_mem_append.mpr ⟨flushed, by decide⟩
        · have hasContent := mt classified.role_eq_blank_iff.mpr isBlank
          exact isLine_effect (Tracker.effect_pushOutsideShell _ classified hasContent) classified
            (isLine_of_mem_tokens member) flushed

/-! ## The end of a document -/

variable (mode kind text)

/-- The finished lines take up one line each, the last of them is not empty, and the document is
these lines, each of them terminated. -/
theorem text_rebuild :
    (∀ line ∈ (trackerAfter mode kind (tokens mode kind text)).finishedLines, line.IsLine) ∧
      (∃ lines last, (trackerAfter mode kind (tokens mode kind text)).finishedLines =
        lines ++ [last] ∧ last ≠ []) ∧
      (rebuild mode kind text).text =
        Text.unlines (trackerAfter mode kind (tokens mode kind text)).finishedLines := by
  have pieces := pieces_rebuild mode kind text
  have joined : (rebuild mode kind text).text = Tracker.joinLines
      (trackerAfter mode kind (tokens mode kind text)).finishedLines := by
    rw [rebuild_eq]
    rfl
  have ends := (trackerAfter mode kind (tokens mode kind text)).getLast?_finishedLines
  generalize (trackerAfter mode kind (tokens mode kind text)).finishedLines = lines at *
  have areLines : ∀ line ∈ lines, line.IsLine := by
    intro line member
    apply Text.not_mem_of_mem_pieces
    rw [pieces]
    exact List.mem_append_left _ member
  have notEmpty : lines ≠ [] := by
    rintro rfl
    rw [joined] at pieces
    exact absurd pieces (by decide)
  refine ⟨areLines, ?_, ?_⟩
  · obtain ⟨start, last, rfl⟩ := (List.eq_nil_or_concat' lines).resolve_left notEmpty
    refine ⟨start, last, rfl, ?_⟩
    rintro rfl
    exact ends List.getLast?_concat
  · rw [joined, Tracker.joinLines_eq_unlines notEmpty]

theorem endsOnce_rebuild : (rebuild mode kind text).text.EndsOnce := by
  obtain ⟨areLines, ⟨lines, last, same, notEmpty⟩, written⟩ := text_rebuild mode kind text
  rw [written, same]
  apply Text.endsOnce_unlines _ notEmpty
  apply areLines
  rw [same]
  exact List.mem_append_right _ (List.mem_singleton_self last)

end Rebuild

theorem endsOnce_rebuildVars (text : Text) : (rebuildVars text).text.EndsOnce := by
  have lines : ∀ line ∈ "---".toList :: (VarsRebuild.settings text).map VarsRebuild.Setting.line,
      Text.IsLine line ∧ line ≠ [] := by
    rw [VarsRebuild.settings_eq, List.map_map]
    refine List.forall_mem_cons.mpr ⟨by decide, List.forall_mem_map.mpr fun facts member => ?_⟩
    refine ⟨(VarsRebuild.isLine_setting (VarsRebuild.firsts_subset _ member)).1, ?_⟩
    simp [VarsRebuild.Setting.line]
  rw [VarsRebuild.text_rebuildVars]
  obtain ⟨start, last, same⟩ := (List.eq_nil_or_concat' _).resolve_left
    (List.cons_ne_nil "---".toList ((VarsRebuild.settings text).map VarsRebuild.Setting.line))
  rw [same] at lines ⊢
  have ends := lines last (List.mem_append_right _ (List.mem_singleton_self last))
  exact Text.endsOnce_unlines ends.1 ends.2

theorem endsOnce_rebuildMeta (defaults : MetaDefaults) (text : Text) :
    (rebuildMeta defaults text).text.EndsOnce := by
  have last (lines : List Text) :
      lines ++ [[], "dependencies: []".toList] =
        (lines ++ [[]]) ++ ["dependencies: []".toList] := by
    rw [List.append_assoc]
    rfl
  rw [rebuildMeta, MetaRebuild.templateLines, last]
  exact Text.endsOnce_unlines (by decide) (by decide)

open Rebuild in
/-- **Rebuilt documents end with one line feed.** Whatever the text, no rebuild of it is empty or
ends with an empty line. No line that the tracker writes on the way holds a line feed, and the
document has as many lines as the tracker has written in the end. -/
theorem rebuilds_endOnce (text : Text) (defaults : MetaDefaults) :
    (rebuildVars text).text.EndsOnce ∧ (rebuildMeta defaults text).text.EndsOnce ∧
    ∀ mode kind, (rebuild mode kind text).text.EndsOnce ∧
      (∀ done later, tokens mode kind text = done ++ later →
        ∀ line ∈ (trackerAfter mode kind done).out ++ (trackerAfter mode kind done).flushShell.out,
          '\n' ∉ line) ∧
      (Text.lines (rebuild mode kind text).text).length =
        (trackerAfter mode kind (tokens mode kind text)).finishedLines.length := by
  refine ⟨endsOnce_rebuildVars text, endsOnce_rebuildMeta defaults text, fun mode kind =>
    ⟨endsOnce_rebuild mode kind text, ?_, ?_⟩⟩
  · intro done later split
    exact List.forall_mem_append.mpr ⟨isLine_out done later split, isLine_flushShell split⟩
  · obtain ⟨areLines, _, written⟩ := text_rebuild mode kind text
    rw [written, Text.length_lines_unlines areLines]

end PlaybookRepair
