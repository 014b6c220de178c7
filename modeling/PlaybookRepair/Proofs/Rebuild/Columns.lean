import Mathlib.Data.List.DropRight
import PlaybookRepair.Proofs.Outline.Document
import PlaybookRepair.Proofs.Rebuild.Margin
import PlaybookRepair.Proofs.Tracker.PushedLines

/-!
# The columns of a rebuilt document

`Rebuild.layout` are the lines of a rebuilt document with the columns to which they were moved. In
the canonical mode these are the first six levels of the document, whatever the columns of the source
(`canonical_layout`), and every rebuild comes to its end (`rebuild?_canonical`).

In the incremental mode the columns of the source count. A source that stands nowhere right of some
column is moved at most three steps further right (`columns_le`), and `deepScript` is moved so far. A
rebuild can therefore be relied on to come to its end as long as the limit of the formatter is three
steps away, and no further (`columns_le_limit_iff`).
-/

namespace PlaybookRepair

namespace WrittenLine

/-- Lines without the empty ones at their end. -/
def dropEmptyEnd (lines : List WrittenLine) : List WrittenLine :=
  lines.rdropWhile (·.text.isEmpty)

theorem map_dropEmptyEnd (lines : List WrittenLine) :
    (dropEmptyEnd lines).map WrittenLine.text =
      Tracker.dropTrailingEmpty (lines.map WrittenLine.text) := by
  rw [dropEmptyEnd, List.rdropWhile, Tracker.dropTrailingEmpty, ← List.map_reverse,
    List.dropWhile_map, List.map_reverse]
  rfl

/-- The line stands at the column: it was moved there, whatever its text starts with, or it is
written as it is and starts there. -/
def StandsAt (column : Nat) : WrittenLine → Prop
  | moved own _ => own = column
  | asIs line => Line.indentWidth line = column

/-- The document marker with which a document starts. -/
def marker : WrittenLine := .asIs "---".toList

end WrittenLine

open WrittenLine (dropEmptyEnd marker)

namespace Rebuild

/-! ## The lines of a run -/

/-- The tracker and the lines that it has written after one more line of the source. -/
def pushWithLayout (state : Tracker × List WrittenLine) (token : LineToken) :
    Tracker × List WrittenLine :=
  (state.1.push token, state.1.pushInto state.2 token)

/-- The lines that have been written after some classified lines. -/
def layoutAfter (mode : RebuildMode) (kind : FileKind) (done : List LineToken) :
    List WrittenLine :=
  let start := Tracker.start mode kind
  (done.foldl pushWithLayout (start, start.out.map .asIs)).2

/-- The lines of a rebuilt document. -/
def layout (mode : RebuildMode) (kind : FileKind) (text : Text) : List WrittenLine :=
  let done := tokens mode kind text
  let lines := dropEmptyEnd ((trackerAfter mode kind done).flushInto (layoutAfter mode kind done))
  if mode = .incremental && !Tracker.startsWithMarker (lines.map WrittenLine.text) then
    marker :: lines
  else lines

theorem foldl_pushWithLayout_fst (state : Tracker × List WrittenLine) (done : List LineToken) :
    (done.foldl pushWithLayout state).1 = done.foldl Tracker.push state.1 := by
  induction done generalizing state with
  | nil => rfl
  | cons token rest ih => exact ih (pushWithLayout state token)

theorem layoutAfter_concat (mode : RebuildMode) (kind : FileKind) (done : List LineToken)
    (token : LineToken) :
    layoutAfter mode kind (done ++ [token]) =
      (trackerAfter mode kind done).pushInto (layoutAfter mode kind done) token := by
  rw [layoutAfter, List.foldl_append, List.foldl_cons, List.foldl_nil, pushWithLayout,
    foldl_pushWithLayout_fst]
  rfl

theorem layoutAfter_text (mode : RebuildMode) (kind : FileKind) (done : List LineToken) :
    (trackerAfter mode kind done).out = (layoutAfter mode kind done).map WrittenLine.text := by
  induction done using List.reverseRecOn with
  | nil =>
      change _ = ((Tracker.start mode kind).out.map WrittenLine.asIs).map WrittenLine.text
      rw [List.map_map]
      exact (List.map_id _).symm
  | append_singleton done token ih =>
      rw [trackerAfter_concat, layoutAfter_concat]
      exact Tracker.pushInto_text ih token

/-- The lines of a document are those of its text. -/
theorem layout_text (mode : RebuildMode) (kind : FileKind) (text : Text) :
    (layout mode kind text).map WrittenLine.text =
      (trackerAfter mode kind (tokens mode kind text)).finishedLines := by
  have written := Tracker.flushInto_text (layoutAfter_text mode kind (tokens mode kind text))
  have isMode := trackerAfter_mode mode kind text (tokens mode kind text) []
    (List.append_nil _).symm
  unfold layout Tracker.finishedLines
  dsimp only
  rw [WrittenLine.map_dropEmptyEnd, ← written, isMode]
  split
  · rw [List.map_cons, WrittenLine.map_dropEmptyEnd, ← written]
    rfl
  · rw [WrittenLine.map_dropEmptyEnd, ← written]

theorem aligned_trackerAfter (mode : RebuildMode) (kind : FileKind) (done : List LineToken) :
    (trackerAfter mode kind done).Aligned := by
  induction done using List.reverseRecOn with
  | nil => exact Tracker.aligned_start mode kind
  | append_singleton done token ih =>
      rw [trackerAfter_concat]
      exact ih.push token

/-- All lines of a rebuild are written for a line of the source, or at the end. -/
theorem mem_writtenLines {mode : RebuildMode} {kind : FileKind} {text : Text} {line : WrittenLine}
    (member : line ∈ writtenLines mode kind text) :
    (∃ done token later, tokens mode kind text = done ++ token :: later ∧
        line ∈ (trackerAfter mode kind done).pushedLines token) ∨
      line ∈ (trackerAfter mode kind (tokens mode kind text)).flushedLines := by
  have fromState (lines : List (Line × Bool)) : ∀ state : State, line ∈ writtenFrom state lines →
      (∃ done token later, tokensFrom state lines = done ++ token :: later ∧
          line ∈ (done.foldl Tracker.push state.tracker).pushedLines token) ∨
        line ∈ ((tokensFrom state lines).foldl Tracker.push state.tracker).flushedLines := by
    induction lines with
    | nil => exact fun state atEnd => .inr atEnd
    | cons first rest ih =>
        intro state written
        rcases List.mem_append.mp written with here | below
        · exact .inl ⟨[], _, _, rfl, here⟩
        · rcases ih _ below with ⟨done, token, later, split, pushed⟩ | atEnd
          · refine .inl ⟨_ :: done, token, later, ?_, pushed⟩
            rw [tokensFrom, split]
            rfl
          · exact .inr atEnd
  exact fromState _ _ member

/-! ## The canonical mode -/

section Canonical

variable (kind : FileKind)

theorem mode_canonical {text : Text} {done later : List LineToken}
    (split : tokens .canonical kind text = done ++ later) :
    (trackerAfter .canonical kind done).mode = .canonical :=
  trackerAfter_mode .canonical kind text done later split

/-- Every line but the document marker stands on one of the first levels. -/
theorem stands_layoutAfter (text : Text) : ∀ done later,
    tokens .canonical kind text = done ++ later →
      ∀ line ∈ layoutAfter .canonical kind done, line = marker ∨ line.Stands .canonical 5 := by
  refine invariant .canonical kind text ?_ ?_
  · intro line member
    exact .inl (List.mem_singleton.mp member)
  · intro done token later split ih line member
    rw [layoutAfter_concat] at member
    rcases Tracker.mem_pushInto member with earlier | pushed
    · exact ih line earlier
    · exact .inr (Tracker.stands_pushedLines (aligned_trackerAfter .canonical kind done)
        (mode_canonical kind split) line pushed)

theorem stands_layout (text : Text) :
    ∀ line ∈ layout .canonical kind text, line = marker ∨ line.Stands .canonical 5 := by
  have split := (List.append_nil (tokens .canonical kind text)).symm
  intro line member
  have isWritten := (List.rdropWhile_prefix _ _).subset member
  rcases Tracker.mem_flushInto isWritten with earlier | flushed
  · exact stands_layoutAfter kind text _ [] split line earlier
  · have stands := Tracker.stands_flushedLines (aligned_trackerAfter .canonical kind _)
      (mode_canonical kind split) line flushed
    exact .inr (stands.add 2)

end Canonical

end Rebuild

/-- The first six levels. -/
theorem OnLevel.mem {column : Nat} (onLevel : OnLevel 5 column) :
    column ∈ [0, 2, 4, 6, 8, 10] := by
  obtain ⟨le, level, rfl⟩ := onLevel
  simp only [indentStep, List.mem_cons, List.not_mem_nil, or_false] at le ⊢
  omega

/-- **The columns of the canonical mode.** Every line of a rebuilt document, in block scalars or
outside of them, stands at one of six columns, whatever the columns of the source. -/
theorem canonical_layout (kind : FileKind) (text : Text) :
    Text.pieces '\n' (rebuild .canonical kind text).text =
      (Rebuild.layout .canonical kind text).map WrittenLine.text ++ [[]] ∧
    ∀ line ∈ Rebuild.layout .canonical kind text,
      ∃ column ∈ [0, 2, 4, 6, 8, 10], line.StandsAt column := by
  constructor
  · rw [Rebuild.pieces_rebuild, Rebuild.layout_text]
  · intro line member
    rcases Rebuild.stands_layout kind text line member with rfl | stands
    · exact ⟨0, by decide, rfl⟩
    · cases line with
      | moved column text => exact ⟨column, OnLevel.mem stands, rfl⟩
      | asIs line => cases stands

/-- The last of the columns is that of a block scalar whose key stands behind a list marker below a
key of a task. -/
example : (Rebuild.layout .canonical .taskList
    "- name: a\n  vars:\n    - b: |\n        c\n".toList).map WrittenLine.column? =
      [none, some 2, some 4, some 6, some 10] := by
  decide +kernel

/-! ## The limit of the formatter -/

theorem WrittenLine.fits_of_column_le {line : WrittenLine}
    (le : ∀ column, line.column? = some column → column ≤ columnLimit) : line.fits := by
  cases line with
  | asIs line => rfl
  | moved column text => exact Bool.or_eq_true_iff.mpr (.inr (decide_eq_true (le column rfl)))

/-- The program comes to the end of a rebuild that moves no line too far. -/
theorem rebuild?_eq_some {mode : RebuildMode} {kind : FileKind} {text : Text}
    (le : ∀ column ∈ Rebuild.columns mode kind text, column ≤ columnLimit) :
    rebuild? mode kind text = some (rebuild mode kind text) := by
  rw [rebuild?, if_pos]
  refine List.all_eq_true.mpr fun line member => WrittenLine.fits_of_column_le ?_
  intro column isColumn
  exact le column (List.mem_filterMap.mpr ⟨line, member, isColumn⟩)

/-- In the canonical mode the program comes to the end of every rebuild. -/
theorem rebuild?_canonical (kind : FileKind) (text : Text) :
    rebuild? .canonical kind text = some (rebuild .canonical kind text) := by
  apply rebuild?_eq_some
  intro column member
  obtain ⟨line, written, isColumn⟩ := List.mem_filterMap.mp member
  have stands : line.Stands .canonical 5 := by
    have aligned (done : List LineToken) := Rebuild.aligned_trackerAfter .canonical kind done
    rcases Rebuild.mem_writtenLines written with ⟨done, token, later, split, pushed⟩ | atEnd
    · exact Tracker.stands_pushedLines (aligned done) (Rebuild.mode_canonical kind split) line
        pushed
    · have split := (List.append_nil (Rebuild.tokens .canonical kind text)).symm
      have stands := Tracker.stands_flushedLines (aligned _) (Rebuild.mode_canonical kind split)
        line atEnd
      exact stands.add 2
  exact Nat.le_trans (stands.column_le isColumn) (by decide)

namespace Rebuild

section Incremental

variable {kind : FileKind} {text : Text} {widest : Nat}
  (source : ∀ line ∈ Line.ofText text, line.indent ≤ widest)
include source

theorem indent_le_of_mem_tokens {token : LineToken}
    (member : token ∈ tokens .incremental kind text) : token.indent ≤ widest := by
  apply source
  rw [← tokens_lines .incremental kind text]
  exact List.mem_map_of_mem member

theorem narrow_trackerAfter : ∀ done later, tokens .incremental kind text = done ++ later →
    (trackerAfter .incremental kind done).Narrow widest := by
  refine invariant .incremental kind text (Tracker.narrow_start widest .incremental kind) ?_
  intro done token later split narrow
  have member : token ∈ tokens .incremental kind text :=
    split ▸ List.mem_append_right _ List.mem_cons_self
  rw [trackerAfter_concat]
  exact narrow.push (classified_of_mem member) (indent_le_of_mem_tokens source member)

/-- No line is moved more than three steps further right than the source stands. -/
theorem columns_le : ∀ column ∈ columns .incremental kind text,
    column ≤ widest + 3 * indentStep := by
  intro column member
  obtain ⟨line, written, isColumn⟩ := List.mem_filterMap.mp member
  have aligned (done : List LineToken) := aligned_trackerAfter .incremental kind done
  rcases mem_writtenLines written with ⟨done, token, later, split, pushed⟩ | atEnd
  · have isToken : token ∈ tokens .incremental kind text :=
      split ▸ List.mem_append_right _ List.mem_cons_self
    exact Tracker.column_pushedLines_le (aligned done) (narrow_trackerAfter source done _ split)
      (trackerAfter_mode .incremental kind text done _ split)
      (indent_le_of_mem_tokens source isToken) line pushed column isColumn
  · have split := (List.append_nil (tokens .incremental kind text)).symm
    have narrow := narrow_trackerAfter source _ [] split
    exact Tracker.column_flushedLines_le (aligned _) narrow line atEnd column isColumn

end Incremental

/-- A script that has lost its indentation, but for one line: the first line of the script joins the
block of the key above it, and the last one is then moved three steps further right. -/
def deepScript (column : Nat) : Text :=
  "shell: |\ndnf install foo\n".toList ++ (List.replicate column ' ' ++ "x\n".toList)

theorem ofText_deepScript (column : Nat) :
    Line.ofText (deepScript column) =
      [⟨1, "shell: |".toList⟩, ⟨2, "dnf install foo".toList⟩,
        (⟨3, "x".toList⟩ : Line).shifted column] := by
  have split : deepScript column = "shell: |".toList ++ '\n' ::
      ("dnf install foo".toList ++ '\n' ::
        ((List.replicate column ' ' ++ "x".toList) ++ '\n' :: [])) := by
    rw [List.append_assoc]
    rfl
  have deep : Text.IsLine (List.replicate column ' ' ++ "x".toList) :=
    Text.isLine_append.mpr ⟨Text.isLine_replicate_space column, by decide⟩
  have noReturn : (List.replicate column ' ' ++ "x".toList).getLast? ≠ some '\r' := by
    simp
  rw [Line.ofText, split, Text.lines_append_feed (by decide) (by decide),
    Text.lines_append_feed (by decide) (by decide), Text.lines_append_feed deep noReturn]
  rfl

theorem ownsHosts_deepScript (column : Nat) :
    ownsHosts (Line.ofText (deepScript column)) = [false, false, false] := by
  have noItem : (LineFacts.ofLine ⟨1, "shell: |".toList⟩).dashed = false ∧
      (LineFacts.ofLine ⟨2, "dnf install foo".toList⟩).dashed = false := by
    decide
  rw [ofText_deepScript]
  simp only [ownsHosts, List.map_cons, List.map_nil, hostsBelow, noItem, Bool.false_and,
    Bool.and_false]

/-- The block that is open again above the last line. -/
def rejoinedScript : ShellBlock where
  key := "shell".toList
  indicator := "|".toList
  startIndent := 0
  explicit := true
  inline := none
  body := [⟨0, "dnf install foo".toList⟩]
  pendingBlanks := 0

/-- The state above the last line. -/
def rejoinedState : State :=
  ((State.start .incremental .taskList).step ⟨1, "shell: |".toList⟩ false).step
    ⟨2, "dnf install foo".toList⟩ false

theorem rejoinedState_tracker :
    rejoinedState.tracker.mode = .incremental ∧
      rejoinedState.tracker.nesting.shell = some rejoinedScript ∧
      rejoinedState.tracker.shellPlacement = ⟨0, 1, 4, true⟩ := by
  decide +kernel

/-- The last line of the deep script is moved three steps further right than it stands. -/
theorem mem_writtenLines_deepScript {column : Nat} (deep : 0 < column) :
    .moved (column + 3 * indentStep) "x".toList ∈
      writtenLines .incremental .taskList (deepScript column) := by
  obtain ⟨incremental, isOpen, placement⟩ := rejoinedState_tracker
  rw [writtenLines, ownsHosts_deepScript, ofText_deepScript]
  generalize isLine : (⟨3, "x".toList⟩ : Line).shifted column = line
  have behind : Line.Behind column ⟨3, "x".toList⟩ line := isLine ▸ Line.behind_shifted column _
  have indent : line.indent = column := behind.indent.trans (Nat.zero_add column)
  have content : line.content = "x".toList := behind.content
  generalize isToken : rejoinedState.classify line false = token
  have tokenIndent : token.indent = column := by
    rw [← isToken]
    exact indent
  have tokenContent : token.content = "x".toList := by
    rw [← isToken]
    exact content
  have hasContent : token.content ≠ [] := by
    rw [tokenContent]
    exact List.cons_ne_nil _ _
  have classified : token.Classified := ⟨line, _, isToken.symm⟩
  have notBlank : token.role ≠ .blank := mt classified.role_eq_blank_iff.mp hasContent
  have deeper : rejoinedScript.startIndent < token.indent := tokenIndent ▸ deep
  have moved := Tracker.mem_flushedLines_push incremental isOpen rfl notBlank hasContent deeper
  have column_eq : rejoinedState.tracker.shellPlacement.depth + (indentStep + (token.indent -
      ShellBlock.baseIndent (rejoinedScript.push token).body)) = column + 3 * indentStep := by
    rw [placement, tokenIndent]
    change 4 + (2 + (column - 0)) = column + 6
    omega
  rw [column_eq, tokenContent, ← isToken] at moved
  exact List.mem_append_right _ (List.mem_append_right _ (List.mem_append_right _ moved))

theorem indent_deepScript (column : Nat) :
    ∀ line ∈ Line.ofText (deepScript column), line.indent ≤ column := by
  have last := (Line.behind_shifted column ⟨3, "x".toList⟩).indent
  rw [ofText_deepScript]
  intro line member
  simp only [List.mem_cons, List.not_mem_nil, or_false] at member
  rcases member with rfl | rfl | rfl
  · exact Nat.zero_le column
  · exact Nat.zero_le column
  · rw [last]
    exact Nat.le_of_eq (Nat.zero_add column)

/-- If the limit is less than three steps away, the deep script is moved beyond it, and the program
ends there. -/
theorem deepScript_beyond (column : Nat) (beyond : columnLimit < column + 3 * indentStep) :
    (∃ own ∈ columns .incremental .taskList (deepScript column), columnLimit < own) ∧
      rebuild? .incremental .taskList (deepScript column) = none := by
  have deep : 0 < column := by
    unfold columnLimit indentStep at beyond
    omega
  have member := mem_writtenLines_deepScript deep
  refine ⟨⟨_, List.mem_filterMap.mpr ⟨_, member, rfl⟩, beyond⟩, ?_⟩
  rw [rebuild?, if_neg]
  intro all
  have fits : ("x".toList.isEmpty || column + 3 * indentStep ≤ columnLimit) = true :=
    List.all_eq_true.mp all _ member
  rcases Bool.or_eq_true_iff.mp fits with empty | le
  · cases empty
  · exact Nat.not_le_of_lt beyond (of_decide_eq_true le)

end Rebuild

/-- **The columns of the incremental mode.** That the source stands nowhere right of some column
keeps all lines within the limit of the formatter exactly if the limit is at least three steps
away. -/
theorem columns_le_limit_iff (widest : Nat) :
    (∀ kind text, (∀ line ∈ Line.ofText text, line.indent ≤ widest) →
      ∀ column ∈ Rebuild.columns .incremental kind text, column ≤ columnLimit) ↔
    widest + 3 * indentStep ≤ columnLimit := by
  constructor
  · intro all
    refine Nat.le_of_not_lt fun beyond => ?_
    obtain ⟨⟨column, member, far⟩, -⟩ := Rebuild.deepScript_beyond widest beyond
    have near := all .taskList _ (Rebuild.indent_deepScript widest) column member
    exact Nat.not_le_of_lt far near
  · intro within kind text source column member
    exact Nat.le_trans (Rebuild.columns_le source column member) within

/-- At the first column that is less than three steps away from the limit a line is moved beyond
it. -/
theorem deepScript_beyond_limit :
    ¬ ∀ column ∈ Rebuild.columns .incremental .taskList (Rebuild.deepScript 65530),
      column ≤ columnLimit := by
  intro all
  obtain ⟨⟨column, member, far⟩, -⟩ := Rebuild.deepScript_beyond 65530 (by decide)
  exact Nat.not_le_of_lt far (all column member)

/-! ## Repairs that come to their end -/

section Repair

variable {text : Text}
  (source : ∀ line ∈ Line.ofText text, line.indent + 3 * indentStep ≤ columnLimit)
include source

theorem rebuild?_incremental (kind : FileKind) :
    rebuild? .incremental kind text = some (rebuild .incremental kind text) := by
  have narrow : ∀ line ∈ Line.ofText text, line.indent ≤ columnLimit - 3 * indentStep :=
    fun line member => Nat.le_sub_of_add_le (source line member)
  apply rebuild?_eq_some
  intro column member
  exact Nat.le_trans (Rebuild.columns_le narrow column member) (Nat.le_of_eq rfl)

theorem candidate?_eq_some (kind : FileKind) (defaults : MetaDefaults) (strategy : Strategy) :
    kind.candidate? defaults text strategy = some (kind.candidate defaults text strategy) := by
  have incremental := rebuild?_incremental source kind
  have canonical := rebuild?_canonical kind text
  cases kind <;> cases strategy <;> first | rfl | exact incremental | exact canonical

/-- **The program comes to its end** with every file in which all lines stand at least three steps
left of the limit. -/
theorem repair?_eq_some (defaults : MetaDefaults) (path : Text) :
    repair? defaults path text = some (repair defaults path text) := by
  unfold repair?
  dsimp only
  rw [if_pos]
  · rfl
  · refine List.all_eq_true.mpr fun strategy _ => ?_
    rw [candidate?_eq_some source]
    rfl

end Repair

end PlaybookRepair
