import Mathlib.Data.List.Find
import Mathlib.Data.List.Forall2
import PlaybookRepair.Proofs.Outline.Document
import PlaybookRepair.Proofs.Rebuild.InStep

/-!
# Documents with a margin

When every line of a document is moved to the right by the same margin, a rebuild in the incremental
mode goes in step with that of the document without the margin: scripts are gathered by the margin
further right and written the same (`ShellBlock.render_behind`), and the lines that have been
written are the same but for copies of the source, which carry the margin (`keeps_shifted`). The
main statement is `rebuild_margin`: only relative columns count, unless the column of a task is cut
at the left edge of the document, or a copied line looks like a document marker.
-/

namespace PlaybookRepair

open Outline (Row)
open Tracker (bringsMarker)

/-! ## Lines with a margin -/

namespace Line

theorem indentWidth_margin (margin : Nat) (text : Text) :
    indentWidth (List.replicate margin ' ' ++ text) = indentWidth text + margin := by
  induction margin with
  | zero => rfl
  | succ margin ih =>
      rw [List.replicate_succ, List.cons_append, indentWidth, ih]
      omega

/-- The line with a margin. -/
def shifted (margin : Nat) (line : Line) : Line :=
  { line with raw := List.replicate margin ' ' ++ line.raw }

theorem trimStart_margin (margin : Nat) (text : Text) :
    Text.trimStart (List.replicate margin ' ' ++ text) = Text.trimStart text := by
  refine List.dropWhile_append_of_pos fun c member => ?_
  rw [List.eq_of_mem_replicate member]
  rfl

theorem behind_shifted (margin : Nat) (line : Line) : line.Behind margin (line.shifted margin) where
  number := rfl
  content := by rw [content, shifted, Text.trim, trimStart_margin, ← Text.trim, ← content]
  indent := indentWidth_margin margin line.raw

/-- A line that is copied keeps its margin. -/
theorem trimEnd_shifted (margin : Nat) {line : Line} (hasContent : line.content ≠ []) :
    Text.trimEnd (line.shifted margin).raw =
      List.replicate margin ' ' ++ Text.trimEnd line.raw := by
  have content : Text.trim (line.shifted margin).raw = Text.trim line.raw :=
    (behind_shifted margin line).content
  have wider : Text.margin (line.shifted margin).raw =
      List.replicate margin ' ' ++ Text.margin line.raw := by
    refine List.takeWhile_append_of_pos fun c member => ?_
    rw [List.eq_of_mem_replicate member]
    rfl
  rw [Text.trimEnd_eq hasContent, Text.trimEnd_eq (by rwa [content]), content, wider,
    List.append_assoc]

/-- The numbered lines of a text whose lines all have a margin. -/
theorem ofText_of_margin {margin : Nat} {first second : Text}
    (moved : Text.lines second = (Text.lines first).map (List.replicate margin ' ' ++ ·)) :
    ofText second = (ofText first).map (shifted margin) := by
  rw [ofText, ofText, moved, List.zipIdx_map, List.map_map, List.map_map]
  rfl

end Line

/-! ## Scripts with a margin -/

/-- The line by a margin further right; a blank line has no column. -/
def ScriptLine.behind (margin : Nat) (line : ScriptLine) : ScriptLine :=
  if line.text.isEmpty then line else { line with indent := line.indent + margin }

theorem ScriptLine.text_behind (margin : Nat) (line : ScriptLine) :
    (line.behind margin).text = line.text := by
  unfold behind
  split <;> rfl

namespace ShellBlock

/-- The block by a margin further right in the source. -/
def behind (margin : Nat) (block : ShellBlock) : ShellBlock :=
  { block with
    startIndent := block.startIndent + margin
    body := block.body.map (ScriptLine.behind margin) }

variable (margin : Nat) (block : ShellBlock)

theorem isBare_behind : (block.behind margin).isBare = block.isBare := by
  simp [isBare, behind]

theorem Behind.of_behind : block.Behind margin (block.behind margin) where
  startIndent := rfl
  explicit := rfl
  isBare := block.isBare_behind margin

section

variable {margin} {token : LineToken} {line : Line} (behind : Line.Behind margin token.line line)
  (hasContent : token.content ≠ [])
include behind hasContent

theorem scriptLine_moved : scriptLine (token.moved line) = (scriptLine token).behind margin := by
  have notEmpty : (scriptLine token).text.isEmpty = false := by
    simpa [scriptLine] using hasContent
  rw [ScriptLine.behind, notEmpty, if_neg (by simp)]
  exact congrArg₂ ScriptLine.mk behind.indent behind.content

theorem push_behind : (block.behind margin).push (token.moved line) =
    (block.push token).behind margin := by
  have blanks : (List.replicate block.pendingBlanks (⟨0, []⟩ : ScriptLine)).map
      (ScriptLine.behind margin) = List.replicate block.pendingBlanks ⟨0, []⟩ := by
    rw [List.map_replicate]
    rfl
  unfold push
  rw [scriptLine_moved behind hasContent]
  simp only [ShellBlock.behind, List.isEmpty_map, List.map_append, List.map_cons, List.map_nil]
  split
  · rfl
  · rw [blanks]

theorem ofFragment_moved : ofFragment (token.moved line) = (ofFragment token).behind margin := by
  unfold ofFragment ShellBlock.behind
  rw [scriptLine_moved behind hasContent, LineToken.indent_moved behind]
  rfl

omit hasContent

theorem ofModule_moved : ofModule (token.moved line) = (ofModule token).behind margin := by
  unfold ofModule ShellBlock.behind
  rw [LineToken.indent_moved behind]
  rfl

end

theorem baseIndent_behind {body : List ScriptLine} (hasText : ∃ line ∈ body, line.text ≠ []) :
    baseIndent (body.map (ScriptLine.behind margin)) = baseIndent body + margin := by
  have isText : (fun line : ScriptLine => !line.text.isEmpty) ∘ ScriptLine.behind margin =
      fun line => !line.text.isEmpty :=
    funext fun line => by rw [Function.comp_apply, line.text_behind margin]
  obtain ⟨line, member, notEmpty⟩ := hasText
  have isFound : (body.find? fun line => !line.text.isEmpty).isSome :=
    List.find?_isSome.mpr ⟨line, member, by simpa using notEmpty⟩
  obtain ⟨first, found⟩ := Option.isSome_iff_exists.mp isFound
  have firstText : first.text.isEmpty = false := by simpa using List.find?_some found
  unfold baseIndent
  rw [List.find?_map, isText, found]
  simp [ScriptLine.behind, firstText]

/-- A line of the body is written the same wherever the block stands in the source. -/
theorem line_behind {line : ScriptLine} (member : line ∈ block.body) (keepRelative : Bool) :
    (if (line.behind margin).text.isEmpty then (0, [])
      else
        (indentStep + if keepRelative && block.explicit
          then (line.behind margin).indent - baseIndent (block.behind margin).body else 0,
          (line.behind margin).text)) =
      if line.text.isEmpty then (0, [])
      else
        (indentStep + if keepRelative && block.explicit
          then line.indent - baseIndent block.body else 0, line.text) := by
  rw [line.text_behind margin]
  split
  · rfl
  · next notEmpty =>
      have base : baseIndent (block.behind margin).body = baseIndent block.body + margin :=
        baseIndent_behind margin ⟨line, member, by simpa using notEmpty⟩
      rw [base, ScriptLine.behind, if_neg notEmpty, Nat.add_sub_add_right]

/-- A script is written the same wherever it stands in the source. -/
theorem render_behind (keepRelative : Bool) :
    (block.behind margin).render keepRelative = block.render keepRelative := by
  have isEmpty : (block.behind margin).body.isEmpty = block.body.isEmpty := List.isEmpty_map
  unfold render
  rw [isEmpty, show (block.behind margin).explicit = block.explicit from rfl]
  split
  · rfl
  · refine congrArg₂ List.cons rfl (congrArg₂ List.append rfl ?_)
    refine (List.map_map ..).trans (List.map_congr_left fun line member => ?_)
    exact block.line_behind margin member keepRelative

end ShellBlock

/-- The action with its script by a margin further right in the source. -/
def TaskAction.behind (margin : Nat) : TaskAction → TaskAction
  | .shell block placement => .shell (block.behind margin) placement
  | .other => .other

/-! ## Written lines -/

namespace Outline.Row

/-- The written line, with the margin if it is a copy of the source. -/
def shifted (margin : Nat) (row : Row) : Text :=
  match row.copied with
  | some _ => List.replicate margin ' ' ++ row.text
  | none => row.text

/-- If the line is a copy, it is one of a line that may be copied. -/
def Copies (copied : LineToken → Prop) (row : Row) : Prop :=
  ∀ token, row.copied = some token →
    copied token ∧ token.content ≠ [] ∧ row.text = Text.trimEnd token.line.raw

variable {copied : LineToken → Prop} {row : Row}

theorem copies_written (text : Text) : Row.Copies copied { text } := nofun

theorem Copies.text_ne_nil {token : LineToken} (copies : row.Copies copied)
    (isCopy : row.copied = some token) : row.text ≠ [] := by
  obtain ⟨_, hasContent, same⟩ := copies token isCopy
  rw [same, Text.trimEnd_eq hasContent]
  exact List.append_ne_nil_of_right_ne_nil _ hasContent

/-- A margin makes no line empty, nor one that is not. -/
theorem Copies.isEmpty_shifted (copies : row.Copies copied) (margin : Nat) :
    (row.shifted margin).isEmpty = row.text.isEmpty := by
  unfold shifted
  split
  · next isCopy =>
      have notEmpty := copies.text_ne_nil isCopy
      rw [List.isEmpty_eq_false_iff.mpr notEmpty, List.isEmpty_eq_false_iff]
      exact List.append_ne_nil_of_right_ne_nil _ notEmpty
  · rfl

theorem trimStart_shifted (margin : Nat) (row : Row) :
    Text.trimStart (row.shifted margin) = Text.trimStart row.text := by
  unfold shifted
  split
  · exact Line.trimStart_margin margin row.text
  · rfl

end Outline.Row

/-! ## Records -/

namespace Tracker.Record

/-- What has been written is the same but for the margin of copies, and what is open or remembered
has been gathered by the margin further right. -/
structure Shifted (margin : Nat) (copied : LineToken → Prop) (first second : Record) : Prop where
  rows : ∃ rows : List Row, first.out = rows.map Row.text ∧
    second.out = rows.map (Row.shifted margin) ∧ ∀ row ∈ rows, row.Copies copied
  ambiguities : second.ambiguities = first.ambiguities
  shell : second.shell = first.shell.map (·.behind margin)
  taskAction : second.taskAction = first.taskAction.map (·.behind margin)
  reopened : second.reopened = first.reopened

/-- The records are shifted and no block is open. -/
def ShiftedClosed (margin : Nat) (copied : LineToken → Prop) (first second : Record) : Prop :=
  Shifted margin copied first second ∧ first.shell = none

/-- The records are shifted and a block is open. -/
def ShiftedOpen (margin : Nat) (copied : LineToken → Prop) (first second : Record) : Prop :=
  Shifted margin copied first second ∧ first.shell.isSome

variable {margin : Nat} {copied : LineToken → Prop} {first second : Record}

/-- One more line of the rebuild, or copy of a line of the source. -/
theorem Shifted.concat (shifted : Shifted margin copied first second) (row : Row)
    (copies : row.Copies copied) :
    Shifted margin copied (first.emitLine row.text) (second.emitLine (row.shifted margin)) := by
  obtain ⟨rows, firstOut, secondOut, areCopies⟩ := shifted.rows
  refine { shifted with rows := ⟨rows ++ [row], ?_, ?_, ?_⟩ }
  · rw [List.map_append, ← firstOut]
    rfl
  · rw [List.map_append, ← secondOut]
    rfl
  · intro other member
    rcases List.mem_append.mp member with earlier | last
    · exact areCopies other earlier
    · rw [List.mem_singleton.mp last]
      exact copies

/-- The open block is written by both in the same place. -/
theorem Shifted.close (shifted : Shifted margin copied first second) (mode : RebuildMode)
    (inTask : Bool) (block : ShellBlock) (placement : Placement) :
    Shifted margin copied (first.close mode inTask block placement)
      (second.close mode inTask (block.behind margin) placement) := by
  obtain ⟨rows, firstOut, secondOut, areCopies⟩ := shifted.rows
  have lines :
      shellLines mode (block.behind margin) placement = shellLines mode block placement := by
    rw [shellLines, block.render_behind margin]
    rfl
  let plain (lines : List Text) : List Row := lines.map fun line => { text := line }
  have texts (lines : List Text) : (plain lines).map Row.text = lines ∧
      (plain lines).map (Row.shifted margin) = lines := by
    constructor <;> exact (List.map_map ..).trans (List.map_id _)
  have copies (lines : List Text) : ∀ row ∈ plain lines, row.Copies copied := by
    intro row member
    obtain ⟨line, _, rfl⟩ := List.mem_map.mp member
    exact Row.copies_written line
  refine
    { rows := ⟨rows.take placement.start ++ plain (shellLines mode block placement) ++
        rows.drop (placement.start + placement.length) ++
          plain (if mode = .incremental && block.pendingBlanks > 0 then [[]] else []), ?_, ?_, ?_⟩
      ambiguities := shifted.ambiguities
      shell := rfl
      taskAction := ?_
      reopened := rfl }
  · simp only [List.map_append, (texts _).1, List.map_take, List.map_drop, ← firstOut]
    rfl
  · simp only [List.map_append, (texts _).2, List.map_take, List.map_drop, ← secondOut]
    rw [Record.close, lines]
    rfl
  · simp only [List.forall_mem_append]
    exact ⟨⟨⟨fun row member => areCopies row (List.mem_of_mem_take member), copies _⟩,
      fun row member => areCopies row (List.mem_of_mem_drop member)⟩, copies _⟩
  · unfold Record.close
    dsimp only
    rw [lines, block.isBare_behind margin, shifted.taskAction]
    cases inTask <;> cases block.isBare <;> rfl

/-- The second one's block has been gathered by the margin further right. -/
theorem Shifted.block_eq (shifted : Shifted margin copied first second) {block other : ShellBlock}
    (firstShell : first.shell = some block) (secondShell : second.shell = some other) :
    other = block.behind margin := by
  have same := shifted.shell
  rw [firstShell, secondShell] at same
  exact Option.some.inj same

/-- Written lines stay the same but for the margin of copies. -/
theorem keeps_shifted (margin : Nat) (copied : LineToken → Prop) :
    Keeps margin (fun token line => line = token.line.shifted margin) copied
      (ShiftedClosed margin copied) (ShiftedOpen margin copied) where
  behind := by
    rintro token _ rfl
    exact token.line.behind_shifted margin
  emitLine := fun line ⟨shifted, noShell⟩ =>
    ⟨shifted.concat { text := line } (Row.copies_written line), noShell⟩
  copyLine := by
    rintro first second token _ rfl hasContent isCopied ⟨shifted, noShell⟩
    have next := shifted.concat { text := Text.trimEnd token.line.raw, copied := some token } (by
      rintro _ ⟨⟩
      exact ⟨isCopied, hasContent, rfl⟩)
    rw [Line.trimEnd_shifted margin hasContent]
    exact ⟨next, noShell⟩
  note := fun report ⟨shifted, noShell⟩ =>
    ⟨{ shifted with ambiguities := congrArg (· ++ [report]) shifted.ambiguities }, noShell⟩
  withAction := by
    rintro first second action (rfl | rfl) ⟨shifted, noShell⟩
    · exact ⟨{ shifted with taskAction := rfl }, noShell⟩
    · exact ⟨{ shifted with taskAction := rfl }, noShell⟩
  closed := fun ⟨shifted, noShell⟩ => ⟨noShell, by rw [shifted.shell, noShell]; rfl⟩
  lastLine := by
    rintro first second ⟨shifted, _⟩
    obtain ⟨rows, firstOut, secondOut, areCopies⟩ := shifted.rows
    rw [firstOut, secondOut, List.getLast?_map, List.getLast?_map]
    cases last : rows.getLast? with
    | none => rfl
    | some row =>
        have copies := areCopies row (List.mem_of_getLast? last)
        simp only [Option.map_some, Option.any_some, copies.isEmpty_shifted]
  actions := by
    rintro first second ⟨shifted, _⟩
    rw [shifted.taskAction]
    match first.taskAction with
    | none => exact .none
    | some .other => exact .other
    | some (.shell block placement) => exact .shell block (block.behind margin) placement
  opens := by
    rintro first second token _ block other rfl hasContent blocks ⟨shifted, _⟩
    have behind := token.line.behind_shifted margin
    refine ⟨{ shifted with shell := ?_ }, rfl⟩
    rcases blocks with ⟨rfl, rfl⟩ | ⟨rfl, rfl⟩
    · exact congrArg some (ShellBlock.ofModule_moved behind)
    · exact congrArg some (ShellBlock.ofFragment_moved behind hasContent)
  rejoins := by
    rintro first second token _ block other placement rfl hasContent firstAction secondAction
      ⟨shifted, _⟩
    have same := shifted.taskAction
    rw [firstAction, secondAction] at same
    obtain rfl : other = block.behind margin := by
      injection same with same
      injection same
    refine ⟨{ shifted with shell := congrArg some ?_, taskAction := rfl, reopened := rfl }, rfl⟩
    exact block.reopen.push_behind (token.line.behind_shifted margin) hasContent
  blocks := by
    rintro first second ⟨shifted, isOpen⟩
    obtain ⟨block, firstShell⟩ := Option.isSome_iff_exists.mp isOpen
    exact ⟨block, block.behind margin, firstShell, by rw [shifted.shell, firstShell]; rfl,
      .of_behind margin block⟩
  place := by
    rintro first second ⟨shifted, _⟩
    obtain ⟨rows, firstOut, secondOut, _⟩ := shifted.rows
    exact ⟨shifted.reopened, by rw [firstOut, secondOut, List.length_map, List.length_map]⟩
  waits := by
    rintro first second block other firstShell secondShell ⟨shifted, _⟩
    obtain rfl := shifted.block_eq firstShell secondShell
    exact ⟨{ shifted with shell := rfl }, rfl⟩
  absorbs := by
    rintro first second block other token _ rfl hasContent firstShell secondShell ⟨shifted, _⟩
    obtain rfl := shifted.block_eq firstShell secondShell
    refine ⟨{ shifted with shell := congrArg some ?_ }, rfl⟩
    exact block.push_behind (token.line.behind_shifted margin) hasContent
  closes := by
    rintro first second block other mode inTask depth dashed firstShell secondShell ⟨shifted, _⟩
    obtain rfl := shifted.block_eq firstShell secondShell
    exact ⟨shifted.close mode inTask block _, rfl⟩

end Tracker.Record

/-! ## Finished documents -/

namespace Tracker

/-- Of lines that are written in two ways the same ones are dropped at the end, if none is empty in
one way only. -/
theorem exists_dropTrailingEmpty_map {rows : List Row} {first second : Row → Text}
    (same : ∀ row ∈ rows, (second row).isEmpty = (first row).isEmpty) :
    ∃ kept, kept <+: rows ∧ dropTrailingEmpty (rows.map first) = kept.map first ∧
      dropTrailingEmpty (rows.map second) = kept.map second := by
  have concat (lines : List Text) (line : Text) : dropTrailingEmpty (lines ++ [line]) =
      if line.isEmpty then dropTrailingEmpty lines else lines ++ [line] := by
    unfold dropTrailingEmpty
    rw [List.reverse_append, List.reverse_singleton, List.singleton_append, List.dropWhile_cons]
    split
    · rfl
    · rw [List.reverse_cons, List.reverse_reverse]
  induction rows using List.reverseRecOn with
  | nil => exact ⟨[], List.prefix_rfl, rfl, rfl⟩
  | append_singleton rows row ih =>
      obtain ⟨kept, isPrefix, firstKept, secondKept⟩ :=
        ih fun other member => same other (List.mem_append_left _ member)
      have sameLast := same row (List.mem_append_right _ (List.mem_singleton_self row))
      simp only [List.map_append, List.map_cons, List.map_nil, concat, sameLast]
      cases (first row).isEmpty with
      | true => exact ⟨kept, isPrefix.trans (List.prefix_append ..), firstKept, secondKept⟩
      | false => exact ⟨rows ++ [row], List.prefix_rfl, by simp, by simp⟩

variable {margin : Nat} {copied : LineToken → Prop} {rows : List Row}

/-- The margin of copies makes no line look like a document marker, and no longer hides one. -/
theorem startsWithMarker_shifted (copies : ∀ row ∈ rows, row.Copies copied)
    (noMarker : ∀ token, copied token → ¬ "---".toList <+: token.line.raw) :
    startsWithMarker (rows.map (Row.shifted margin)) = startsWithMarker (rows.map Row.text) := by
  unfold startsWithMarker
  dsimp only
  rw [List.find?_map, List.find?_map]
  have isContent : ∀ row ∈ rows,
      ((fun line : Text => !line.isEmpty && (Text.trimStart line).head? ≠ some '#') ∘
        Row.shifted margin) row =
      ((fun line : Text => !line.isEmpty && (Text.trimStart line).head? ≠ some '#') ∘
        Row.text) row := by
    intro row member
    simp only [Function.comp_apply, (copies row member).isEmpty_shifted, row.trimStart_shifted]
  rw [List.find?_congr isContent]
  generalize found : rows.find? _ = result
  cases result with
  | none => rfl
  | some row =>
      change "---".toList.isPrefixOf (row.shifted margin) = "---".toList.isPrefixOf row.text
      unfold Outline.Row.shifted
      split
      · next token isCopy =>
          obtain ⟨isCopied, _, same⟩ := copies row (List.mem_of_find?_eq_some found) token isCopy
          have noPrefix : "---".toList.isPrefixOf row.text = false := by
            rw [← Bool.not_eq_true, List.isPrefixOf_iff_prefix, same]
            exact fun isPrefix => noMarker token isCopied
              (isPrefix.trans (Text.trimEnd_isPrefixOf _))
          cases margin with
          | zero => rfl
          | succ margin =>
              rw [noPrefix]
              rfl
      · rfl

/-- The finished lines are the same but for the margin of copies. -/
theorem exists_finishedLines_shifted {first second : Tracker}
    (shifted : Record.Shifted margin copied first.flushShell.record second.flushShell.record)
    (mode : second.mode = first.mode)
    (noMarker : ∀ token, copied token → ¬ "---".toList <+: token.line.raw) :
    ∃ rows : List Row, first.finishedLines = rows.map Row.text ∧
      second.finishedLines = rows.map (Row.shifted margin) ∧ ∀ row ∈ rows, row.Copies copied := by
  obtain ⟨written, firstOut, secondOut, copies⟩ := shifted.rows
  obtain ⟨kept, isPrefix, firstKept, secondKept⟩ :=
    exists_dropTrailingEmpty_map fun row member => (copies row member).isEmpty_shifted margin
  have keptCopies : ∀ row ∈ kept, row.Copies copied :=
    fun row member => copies row (isPrefix.subset member)
  have sameMarker : startsWithMarker (kept.map (Row.shifted margin)) =
      startsWithMarker (kept.map Row.text) :=
    startsWithMarker_shifted keptCopies noMarker
  have firstLines : dropTrailingEmpty first.flushShell.out = kept.map Row.text :=
    (congrArg dropTrailingEmpty firstOut).trans firstKept
  have secondLines : dropTrailingEmpty second.flushShell.out = kept.map (Row.shifted margin) :=
    (congrArg dropTrailingEmpty secondOut).trans secondKept
  unfold finishedLines
  dsimp only
  rw [firstLines, secondLines, mode, sameMarker]
  split
  · exact ⟨{ text := "---".toList } :: kept, rfl, rfl,
      List.forall_mem_cons.mpr ⟨Row.copies_written _, keptCopies⟩⟩
  · exact ⟨kept, rfl, rfl, keptCopies⟩

end Tracker

/-- The second document is the first one but for the margin of lines that were copied, and the same
is reported of both. -/
def Rebuilt.SameBelowMargin (margin : Nat) (copied : LineToken → Prop) (first second : Rebuilt) :
    Prop :=
  second.ambiguities = first.ambiguities ∧ ∃ rows : List Row,
    Text.pieces '\n' first.text = rows.map Row.text ∧
    Text.pieces '\n' second.text = rows.map (Row.shifted margin) ∧
    ∀ row ∈ rows, row.Copies copied

namespace Rebuild

/-- The line is a comment, or it continues what came before where there is nothing to continue. -/
def IsCopied (kind : FileKind) (text : Text) (token : LineToken) : Prop :=
  ∃ before later, tokens .incremental kind text = before ++ token :: later ∧
    (trackerAfter .incremental kind before).flushShell.MayCopy token

/-- The line starts a task and has no list marker. -/
def StartsBare (kind : FileKind) (text : Text) (token : LineToken) : Prop :=
  ∃ before later, tokens .incremental kind text = before ++ token :: later ∧
    (trackerAfter .incremental kind before).startsTask token ∧ bringsMarker token = false

end Rebuild

open Rebuild
open Tracker.Record (Either ShiftedClosed ShiftedOpen)

/-- **Only relative columns count.** When every line of a text is moved to the right by the same
margin, it is rebuilt in the incremental mode to the same lines, but for comments and for lines with
nothing to continue, which are copied with their margin, and the same is reported; provided that no
line without a list marker starts a task in the first two columns, and that no line that is copied
starts with three hyphens. -/
theorem rebuild_margin (kind : FileKind) {margin : Nat} {first second : Text}
    (moved : Text.lines second = (Text.lines first).map (List.replicate margin ' ' ++ ·))
    (uncut : ∀ token, StartsBare kind first token → indentStep ≤ token.indent)
    (noMarker : ∀ token, IsCopied kind first token → ¬ "---".toList <+: token.line.raw) :
    (rebuild .incremental kind first).SameBelowMargin margin (IsCopied kind first)
      (rebuild .incremental kind second) := by
  have keeps := Tracker.Record.keeps_shifted margin (IsCopied kind first)
  have lines := Line.ofText_of_margin moved
  have flags : ownsHosts (Line.ofText second) = ownsHosts (Line.ofText first) := by
    unfold ownsHosts
    rw [hostsBelow_of_content]
    rw [lines, List.map_map]
    exact List.map_congr_left fun line _ => (line.behind_shifted margin).content
  have start : State.InStep margin
      (Either (ShiftedClosed margin (IsCopied kind first))
        (ShiftedOpen margin (IsCopied kind first)))
      (.start .incremental kind) (.start .incremental kind) :=
    { tracker :=
        { mode := rfl, kind := rfl, play := rfl, taskSection := rfl, task := rfl, openKey := rfl
          lastKeyColumn := rfl, pendingDash := rfl
          record := .inl ⟨⟨⟨[], rfl, rfl, List.forall_mem_nil _⟩, rfl, rfl, rfl, rfl⟩, rfl⟩ }
      previousOpensBlock := rfl }
  have sameLines : List.Forall₂ (fun line other => ∀ token : LineToken, token.line = line →
      other = token.line.shifted margin) (Line.ofText first) (Line.ofText second) := by
    rw [lines, List.forall₂_map_right_iff]
    exact List.forall₂_same.mpr fun line _ token same => by rw [same]
  have ran := run_inStep keeps start (ownsHosts (Line.ofText first)) sameLines
    (fun done token later split mayCopy => ⟨done, later, split, mayCopy⟩)
    (fun done token later split starts noMarker =>
      .inr (uncut token ⟨done, later, split, starts, noMarker⟩))
  have firstRun : (run (.start .incremental kind) ((Line.ofText first).zip
      (ownsHosts (Line.ofText first)))).tracker =
        trackerAfter .incremental kind (tokens .incremental kind first) := run_tracker _ _
  have secondRun : (run (.start .incremental kind) ((Line.ofText second).zip
      (ownsHosts (Line.ofText first)))).tracker =
        trackerAfter .incremental kind (tokens .incremental kind second) := by
    rw [← flags]
    exact run_tracker _ _
  have inStep := ran.tracker
  rw [firstRun, secondRun] at inStep
  have closed := inStep.flushShell keeps
  obtain ⟨rows, firstLines, secondLines, copies⟩ :=
    Tracker.exists_finishedLines_shifted closed.record.1 inStep.mode noMarker
  refine ⟨?_, rows ++ [{ text := [] }], ?_, ?_, ?_⟩
  · rw [rebuild_eq, rebuild_eq]
    exact closed.record.1.ambiguities
  · rw [pieces_rebuild, firstLines, List.map_append]
    rfl
  · rw [pieces_rebuild, secondLines, List.map_append]
    rfl
  · intro row member
    rcases List.mem_append.mp member with isRow | isLast
    · exact copies row isRow
    · rw [List.mem_singleton.mp isLast]
      exact Row.copies_written []

/-- A play with a script, a comment and a task that has lost its list marker is rebuilt the same
three columns further right, but for the margin of the comment. -/
theorem rebuild_margin_play :
    let first := "- hosts: all\n  tasks:\n# check\n   name: a\n     shell: |\n         ls\n".toList
    let second := ("   - hosts: all\n     tasks:\n   # check\n      name: a\n        shell: |\n" ++
      "            ls\n").toList
    Text.lines second = (Text.lines first).map (List.replicate 3 ' ' ++ ·) ∧
    (∀ token, StartsBare .playbook first token → indentStep ≤ token.indent) ∧
    (∀ token, IsCopied .playbook first token → ¬ "---".toList <+: token.line.raw) ∧
    (rebuild .incremental .playbook first).SameBelowMargin 3 (IsCopied .playbook first)
      (rebuild .incremental .playbook second) := by
  intro first second
  have moved : Text.lines second = (Text.lines first).map (List.replicate 3 ' ' ++ ·) := by
    decide +kernel
  have uncut : ∀ token, StartsBare .playbook first token → indentStep ≤ token.indent := by
    have allUncut : ∀ before token later, tokens .incremental .playbook first =
        before ++ token :: later → (trackerAfter .incremental .playbook before).startsTask token →
          bringsMarker token = false → indentStep ≤ token.indent :=
      forall_split (by decide +kernel)
    rintro token ⟨before, later, split, starts, noMarker⟩
    exact allUncut before token later split starts noMarker
  have noMarker : ∀ token, IsCopied .playbook first token → ¬ "---".toList <+: token.line.raw := by
    have noneCopied : ∀ before token later, tokens .incremental .playbook first =
        before ++ token :: later →
          (trackerAfter .incremental .playbook before).flushShell.MayCopy token →
            ¬ "---".toList <+: token.line.raw :=
      forall_split (by decide +kernel)
    rintro token ⟨before, later, split, mayCopy⟩
    exact noneCopied before token later split mayCopy
  exact ⟨moved, uncut, noMarker, rebuild_margin .playbook moved uncut noMarker⟩

/-- A module below a task that has lost its list marker, at the left edge of the document, starts a
task of its own; two columns further right it does not. -/
theorem rebuild_margin_cut :
    let first := "name: a\nmy_module: x\n".toList
    let second := "  name: a\n  my_module: x\n".toList
    Text.lines second = (Text.lines first).map (List.replicate 2 ' ' ++ ·) ∧
    ∀ copied, ¬ (rebuild .incremental .taskList first).SameBelowMargin 2 copied
      (rebuild .incremental .taskList second) := by
  refine ⟨by decide +kernel, ?_⟩
  rintro copied ⟨_, rows, firstLines, secondLines, _⟩
  have isFirst : Text.pieces '\n' (rebuild .incremental .taskList
      "name: a\nmy_module: x\n".toList).text =
        ["---".toList, "  - name: a".toList, "  - my_module: x".toList, []] := by
    decide +kernel
  have isSecond : Text.pieces '\n' (rebuild .incremental .taskList
      "  name: a\n  my_module: x\n".toList).text =
        ["---".toList, "  - name: a".toList, "    my_module: x".toList, []] := by
    decide +kernel
  have third : rows[2]?.map Row.text = some "  - my_module: x".toList := by
    rw [← List.getElem?_map, ← firstLines, isFirst]
    rfl
  have moved : rows[2]?.map (Row.shifted 2) = some "    my_module: x".toList := by
    rw [← List.getElem?_map, ← secondLines, isSecond]
    rfl
  obtain ⟨row, isRow, text⟩ := Option.map_eq_some_iff.mp third
  rw [isRow, Option.map_some] at moved
  have shifted := Option.some.inj moved
  unfold Outline.Row.shifted at shifted
  rw [text] at shifted
  split at shifted <;> exact absurd shifted (by decide)

end PlaybookRepair
