import PlaybookRepair.FileKind.Detection
import PlaybookRepair.MetaRebuild
import PlaybookRepair.Proofs.FileKind.Preamble
import PlaybookRepair.Proofs.Rebuild.Margin
import PlaybookRepair.VarsRebuild

/-!
# Line endings

Files come with line feeds at the ends of their lines, or with a carriage return before each of
them. A carriage return that is left at the end of a line is a blank, so the line still has the same
column, the same content and the same text up to blanks at its end (`Line.ReadsAlike`). Nothing else
is read off a line: texts whose lines read alike are of the same kind (`detect_readsAlike`) and are
rebuilt the same, with the same reports (`rebuild_readsAlike`). The main statement is
`rebuilds_withReturns`.
-/

namespace PlaybookRepair

/-! ## Lines that read alike -/

namespace Text

/-- The text with a carriage return before every line feed. -/
def withReturns (text : Text) : Text :=
  text.flatMap fun c => if c = '\n' then ['\r', '\n'] else [c]

/-- The second text may have one carriage return more at its end. -/
def SameButReturn (first second : Text) : Prop := second = first ∨ second = first ++ ['\r']

theorem withReturns_feed (rest : Text) :
    withReturns ('\n' :: rest) = '\r' :: '\n' :: withReturns rest :=
  rfl

theorem withReturns_cons {c : Char} (notFeed : c ≠ '\n') (rest : Text) :
    withReturns (c :: rest) = c :: withReturns rest := by
  rw [withReturns, List.flatMap_cons, if_neg notFeed]
  rfl

theorem withReturns_ne_feed (text rest : Text) : withReturns text ≠ '\n' :: rest := by
  cases text with
  | nil => nofun
  | cons c text =>
      by_cases feed : c = '\n'
      · rw [feed, withReturns_feed]
        simp
      · rw [withReturns_cons feed]
        intro same
        exact feed (List.cons.inj same).1

/-- A character that is no line feed goes to the first line of the rest. -/
theorem lines_cons {c : Char} {rest : Text} (notFeed : c ≠ '\n')
    (inLine : ∀ more, rest ≠ '\n' :: more) :
    lines (c :: rest) = match lines rest with
      | [] => [[c]]
      | line :: more => (c :: line) :: more := by
  rw [lines.eq_def]
  split
  · next empty => cases empty
  · next feed => exact (notFeed (List.cons.inj feed).1).elim
  · next returnFeed => exact (inLine _ (List.cons.inj returnFeed).2).elim
  · next split =>
      obtain ⟨rfl, rfl⟩ := List.cons.inj split
      rfl

/-- A line feed takes one carriage return along, so the lines of a text keep at most the one that
was there before. -/
theorem lines_withReturns (text : Text) :
    List.Forall₂ SameButReturn (lines text) (lines (withReturns text)) := by
  fun_induction lines text with
  | case1 => exact .nil
  | case2 rest ih =>
      rw [withReturns_feed]
      exact .cons (.inl rfl) ih
  | case3 rest ih =>
      rw [withReturns_cons (by decide), withReturns_feed, lines_cons (by decide) (by simp)]
      exact .cons (.inr rfl) ih
  | case4 c rest notFeed _ found ih =>
      rw [found, List.forall₂_nil_left_iff] at ih
      rw [withReturns_cons notFeed, lines_cons notFeed fun more => withReturns_ne_feed rest more,
        ih]
      exact .cons (.inl rfl) .nil
  | case5 c rest notFeed _ line more found ih =>
      rw [found] at ih
      obtain ⟨other, others, same, sameRest, isCons⟩ := List.forall₂_cons_left_iff.mp ih
      rw [withReturns_cons notFeed, lines_cons notFeed fun more => withReturns_ne_feed rest more,
        isCons]
      exact .cons (same.imp (congrArg (c :: ·)) (congrArg (c :: ·))) sameRest

theorem trimEnd_append_blanks {blanks : Text} (areBlank : ∀ c ∈ blanks, isBlank c) (text : Text) :
    trimEnd (text ++ blanks) = trimEnd text := by
  rw [trimEnd, List.reverse_append, List.dropWhile_append_of_pos fun c member =>
    areBlank c (List.mem_reverse.mp member), trimEnd]

end Text

namespace Line

/-- The lines have the same number, column and content, and are the same up to blanks at their
ends. -/
structure ReadsAlike (first second : Line) : Prop extends Behind 0 first second where
  trimmed : Text.trimEnd second.raw = Text.trimEnd first.raw

theorem indentWidth_append_return (text : Text) :
    indentWidth (text ++ ['\r']) = indentWidth text := by
  fun_induction indentWidth text with
  | case1 rest ih => exact congrArg (1 + ·) ih
  | case2 rest ih => exact congrArg (tabWidth + ·) ih
  | case3 text notSpace notTab =>
      cases text with
      | nil => rfl
      | cons c rest =>
          rw [List.cons_append, indentWidth.eq_def]
          split
          · next space => exact (notSpace _ (congrArg (· :: rest) (List.cons.inj space).1)).elim
          · next tab => exact (notTab _ (congrArg (· :: rest) (List.cons.inj tab).1)).elim
          · rfl

theorem readsAlike_of_sameButReturn {first second : Text} (same : Text.SameButReturn first second)
    (number : Nat) : ReadsAlike ⟨number, first⟩ ⟨number, second⟩ := by
  rcases same with rfl | rfl
  · exact { number := rfl, content := rfl, indent := rfl, trimmed := rfl }
  · have areBlank : ∀ c ∈ ['\r'], Text.isBlank c := by decide
    exact
      { number := rfl
        content := Text.trim_append_blanks areBlank first
        indent := indentWidth_append_return first
        trimmed := Text.trimEnd_append_blanks areBlank first }

/-- The lines of a text read alike with carriage returns. -/
theorem ofText_withReturns (text : Text) :
    List.Forall₂ ReadsAlike (ofText text) (ofText (Text.withReturns text)) := by
  have numbered {lines others : List Text} (same : List.Forall₂ Text.SameButReturn lines others)
      (start : Nat) :
      List.Forall₂ ReadsAlike ((lines.zipIdx start).map fun entry => ⟨entry.2, entry.1⟩)
        ((others.zipIdx start).map fun entry => ⟨entry.2, entry.1⟩) := by
    induction same generalizing start with
    | nil => exact .nil
    | cons sameLine _ ih =>
        exact .cons (readsAlike_of_sameButReturn sameLine start) (ih (start + 1))
  exact numbered (Text.lines_withReturns text) 1

variable {lines others : List Line}

theorem map_content_readsAlike (alike : List.Forall₂ ReadsAlike lines others) :
    others.map content = lines.map content := by
  induction alike with
  | nil => rfl
  | cons same _ ih => rw [List.map_cons, List.map_cons, ih, same.content]

end Line

/-! ## The kind of a file -/

namespace FileKind

/-- Texts whose lines read alike are of the same kind. -/
theorem detect_readsAlike (path : Text) {first second : Text}
    (alike : List.Forall₂ Line.ReadsAlike (Line.ofText first) (Line.ofText second)) :
    detect path second = detect path first := by
  have start : startsWithItem (Line.ofText second) = startsWithItem (Line.ofText first) := by
    have contents := Line.map_content_readsAlike alike
    have found (lines : List Line) : startsWithItem lines =
        ((lines.map Line.content).find? isContent).any LineFacts.isDashed := by
      rw [List.find?_map, Option.any_map]
      rfl
    rw [found, found, contents]
  have keys {lines others : List Line} (same : List.Forall₂ Line.ReadsAlike lines others) :
      others.any isPlaybookLine = lines.any isPlaybookLine := by
    induction same with
    | nil => rfl
    | cons sameLine _ ih =>
        have facts := LineFacts.ofLine_of_content sameLine.content
        rw [List.any_cons, List.any_cons, ih]
        congr 1
        simp only [isPlaybookLine, sameLine.indent, facts, LineFacts.hasKey, Nat.add_zero]
  exact detect_of_lines (keys alike) start

end FileKind

/-! ## Rebuilding by the tracker -/

theorem ShellBlock.behind_zero (block : ShellBlock) : block.behind 0 = block := by
  have sameLine : ScriptLine.behind 0 = id := by
    funext line
    unfold ScriptLine.behind
    split <;> rfl
  unfold ShellBlock.behind
  rw [sameLine, List.map_id]
  rfl

namespace Tracker.Record

/-- The records are the same and have no shell block open. -/
def EqClosed (first second : Record) : Prop := second = first ∧ first.shell = none

/-- The records are the same and have a shell block open. -/
def EqOpen (first second : Record) : Prop := second = first ∧ first.shell.isSome

/-- Whatever is done to two records alike, they stay the same record. -/
theorem keeps_readsAlike :
    Keeps 0 (fun token line => token.line.ReadsAlike line) (fun _ => True) EqClosed EqOpen where
  behind := Line.ReadsAlike.toBehind
  emitLine := by
    rintro _ record line ⟨rfl, noShell⟩
    exact ⟨rfl, noShell⟩
  copyLine := by
    rintro _ record token line alike _ _ ⟨rfl, noShell⟩
    rw [alike.trimmed]
    exact ⟨rfl, noShell⟩
  note := by
    rintro _ record report ⟨rfl, noShell⟩
    exact ⟨rfl, noShell⟩
  withAction := by
    rintro _ record action _ ⟨rfl, noShell⟩
    exact ⟨rfl, noShell⟩
  closed := by
    rintro _ record ⟨rfl, noShell⟩
    exact ⟨noShell, noShell⟩
  lastLine := by
    rintro _ record ⟨rfl, _⟩
    rfl
  actions := by
    rintro _ record ⟨rfl, _⟩
    cases record.taskAction with
    | none => exact .none
    | some action =>
        cases action with
        | other => exact .other
        | shell block placement => exact .shell block block placement
  opens := by
    rintro _ record token line block other alike hasContent blocks ⟨rfl, _⟩
    obtain rfl : other = block := by
      rcases blocks with ⟨rfl, rfl⟩ | ⟨rfl, rfl⟩
      · rw [ShellBlock.ofModule_moved alike.toBehind, ShellBlock.behind_zero]
      · rw [ShellBlock.ofFragment_moved alike.toBehind hasContent, ShellBlock.behind_zero]
    exact ⟨rfl, rfl⟩
  rejoins := by
    rintro _ record token line block other placement alike hasContent action sameAction ⟨rfl, _⟩
    obtain rfl : other = block := by
      rw [action] at sameAction
      injection sameAction with sameAction
      injection sameAction with sameBlock
      exact sameBlock.symm
    have pushed := other.reopen.push_behind alike.toBehind hasContent
    rw [ShellBlock.behind_zero, ShellBlock.behind_zero] at pushed
    rw [pushed]
    exact ⟨rfl, rfl⟩
  blocks := by
    rintro _ record ⟨rfl, isOpen⟩
    obtain ⟨block, shell⟩ := Option.isSome_iff_exists.mp isOpen
    have behind := ShellBlock.Behind.of_behind 0 block
    rw [block.behind_zero] at behind
    exact ⟨block, block, shell, shell, behind⟩
  place := by
    rintro _ record ⟨rfl, _⟩
    exact ⟨rfl, rfl⟩
  waits := by
    rintro _ record block other shell otherShell ⟨rfl, _⟩
    obtain rfl : other = block := Option.some.inj (otherShell.symm.trans shell)
    exact ⟨rfl, rfl⟩
  absorbs := by
    rintro _ record block other token line alike hasContent shell otherShell ⟨rfl, _⟩
    obtain rfl : other = block := Option.some.inj (otherShell.symm.trans shell)
    have pushed := other.push_behind alike.toBehind hasContent
    rw [ShellBlock.behind_zero, ShellBlock.behind_zero] at pushed
    rw [pushed]
    exact ⟨rfl, rfl⟩
  closes := by
    rintro _ record block other mode inTask depth dashed shell otherShell ⟨rfl, _⟩
    obtain rfl : other = block := Option.some.inj (otherShell.symm.trans shell)
    exact ⟨rfl, rfl⟩

end Tracker.Record

open Rebuild

/-- Texts whose lines read alike are rebuilt the same. -/
theorem rebuild_readsAlike (mode : RebuildMode) (kind : FileKind) {first second : Text}
    (alike : List.Forall₂ Line.ReadsAlike (Line.ofText first) (Line.ofText second)) :
    rebuild mode kind second = rebuild mode kind first := by
  have keeps := Tracker.Record.keeps_readsAlike
  have flags : ownsHosts (Line.ofText second) = ownsHosts (Line.ofText first) := by
    rw [ownsHosts, ownsHosts, hostsBelow_of_content (Line.map_content_readsAlike alike)]
  have start : State.InStep 0
      (Tracker.Record.Either Tracker.Record.EqClosed Tracker.Record.EqOpen)
      (.start mode kind) (.start mode kind) :=
    { tracker :=
        { mode := rfl, kind := rfl, play := rfl, taskSection := rfl, task := rfl, openKey := rfl
          lastKeyColumn := rfl, pendingDash := rfl, record := .inl ⟨rfl, rfl⟩ }
      previousOpensBlock := rfl }
  have sameLines : List.Forall₂ (fun line other => ∀ token : LineToken, token.line = line →
      token.line.ReadsAlike other) (Line.ofText first) (Line.ofText second) :=
    alike.imp fun line other same token isLine => isLine ▸ same
  have ran := run_inStep keeps start (ownsHosts (Line.ofText first)) sameLines
    (fun _ _ _ _ _ => trivial) (fun _ _ _ _ _ _ => .inl rfl)
  have isMode := ran.tracker.mode
  have closed := ran.tracker.flushShell keeps
  have written := congrArg Tracker.Record.out closed.record.1
  have reported := congrArg Tracker.Record.ambiguities closed.record.1
  rw [rebuild, rebuild, flags]
  generalize (run (.start mode kind) ((Line.ofText first).zip
    (ownsHosts (Line.ofText first)))).tracker = tracker at *
  generalize (run (.start mode kind) ((Line.ofText second).zip
    (ownsHosts (Line.ofText first)))).tracker = other at *
  simp only [Tracker.record] at written reported
  rw [Tracker.finish, Tracker.finish, Tracker.finishedLines, Tracker.finishedLines, written,
    reported, isMode]

/-! ## The other rebuilds -/

namespace VarsRebuild

/-- A variable is kept, or reported, by the number, the column and the content of its line. -/
theorem push_readsAlike (state : State) {line other : Line} (alike : line.ReadsAlike other) :
    state.push other = state.push line := by
  have facts := LineFacts.ofLine_of_content alike.content
  have note (state : State) (reason : AmbiguityReason) :
      state.note (LineFacts.ofLine other) reason = state.note (LineFacts.ofLine line) reason := by
    rw [State.note, State.note, facts]
    simp only [LineFacts.content, alike.number, alike.content]
    rfl
  have keep (key : Text) :
      state.keep (LineFacts.ofLine other) key = state.keep (LineFacts.ofLine line) key := by
    have indent : (LineFacts.ofLine other).indent = (LineFacts.ofLine line).indent := alike.indent
    have value : (LineFacts.ofLine other).value = (LineFacts.ofLine line).value := by rw [facts]
    simp only [State.keep, note, indent, value]
  have isKept : isVariable (LineFacts.ofLine other) = isVariable (LineFacts.ofLine line) := by
    rw [isVariable, isVariable, facts]
    simp only [LineFacts.content, alike.content]
    rfl
  have key : (LineFacts.ofLine other).key = (LineFacts.ofLine line).key := by rw [facts]
  simp only [State.push, key, isKept, note, keep]

theorem run_readsAlike {first second : Text}
    (alike : List.Forall₂ Line.ReadsAlike (Line.ofText first) (Line.ofText second)) :
    run second = run first := by
  have pushed {lines others : List Line} (same : List.Forall₂ Line.ReadsAlike lines others)
      (state : State) : others.foldl State.push state = lines.foldl State.push state := by
    induction same generalizing state with
    | nil => rfl
    | cons sameLine _ ih =>
        rw [List.foldl_cons, List.foldl_cons, push_readsAlike state sameLine, ih]
  exact pushed alike {}

end VarsRebuild

theorem rebuildMeta_readsAlike (defaults : MetaDefaults) {first second : Text}
    (alike : List.Forall₂ Line.ReadsAlike (Line.ofText first) (Line.ofText second)) :
    rebuildMeta defaults second = rebuildMeta defaults first := by
  have values {lines others : List Line} (same : List.Forall₂ Line.ReadsAlike lines others)
      (field : MetaField) :
      field.salvage? (others.map .ofLine) = field.salvage? (lines.map .ofLine) := by
    unfold MetaField.salvage?
    induction same with
    | nil => rfl
    | cons sameLine _ ih =>
        have facts := LineFacts.ofLine_of_content sameLine.content
        rw [List.map_cons, List.map_cons, List.findSome?_cons, List.findSome?_cons, ih, facts]
        rfl
  have fieldLine : MetaRebuild.fieldLine? defaults ((Line.ofText second).map .ofLine) =
      MetaRebuild.fieldLine? defaults ((Line.ofText first).map .ofLine) := by
    funext field
    rw [MetaRebuild.fieldLine?, MetaRebuild.fieldLine?, values alike field]
  rw [rebuildMeta, rebuildMeta, MetaRebuild.templateLines, MetaRebuild.templateLines, fieldLine]

/-- **Line endings do not matter.** A file with a carriage return before each line feed is of the
same kind as without them, whatever its path, and every rebuild of it gives the same text with the
same reports. -/
theorem rebuilds_withReturns (path text : Text) (kind : FileKind) (defaults : MetaDefaults) :
    FileKind.detect path (Text.withReturns text) = FileKind.detect path text ∧
      (∀ mode, rebuild mode kind (Text.withReturns text) = rebuild mode kind text) ∧
      rebuildVars (Text.withReturns text) = rebuildVars text ∧
      rebuildMeta defaults (Text.withReturns text) = rebuildMeta defaults text := by
  have alike := Line.ofText_withReturns text
  refine ⟨FileKind.detect_readsAlike path alike, ?_, ?_, rebuildMeta_readsAlike defaults alike⟩
  · intro mode
    exact rebuild_readsAlike mode kind alike
  · rw [rebuildVars, rebuildVars, VarsRebuild.run_readsAlike alike]

end PlaybookRepair
