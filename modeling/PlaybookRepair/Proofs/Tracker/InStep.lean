import PlaybookRepair.Proofs.Tracker.Layout
import PlaybookRepair.Proofs.Tracker.Task

/-!
# Trackers in step

What a tracker has written, reported and gathered (`Tracker.Record`) is never read again when a line
is placed, but for the places of shell blocks and the emptiness of the last line. Two trackers that
have the same sections open, the sections of one by a margin further right, therefore do the same
with the same line, the margin further right, whatever relation their records are in, as long as
everything that is done to both of them keeps that relation (`Tracker.Keeps`). `Tracker.InStep` says
that two trackers go in step, `InStep.push` that a line keeps them so, and `InStep.role` that the
line has the same role for both.

Only where a column is computed from that of a key to the right of it may the margin get lost: the
column of a task without a list marker is cut at the left edge of the document.
-/

namespace PlaybookRepair

open Catalog (isShellModule isTaskSection)
open InlineValue (isBlockIndicator)

/-- The second line has the number and the content of the first, by a margin further right. -/
structure Line.Behind (margin : Nat) (first second : Line) : Prop where
  number : second.number = first.number
  content : second.content = first.content
  indent : second.indent = first.indent + margin

theorem Line.Behind.refl (line : Line) : Line.Behind 0 line line := ⟨rfl, rfl, rfl⟩

/-- The key by a margin further right in the source. -/
def InnerLiteral.behind (margin : Nat) (inner : InnerLiteral) : InnerLiteral :=
  { inner with sourceIndent := inner.sourceIndent + margin }

/-- The key by a margin further right in the source, with the key among its nested lines. -/
def OpenKey.behind (margin : Nat) (key : OpenKey) : OpenKey :=
  { key with
    sourceIndent := key.sourceIndent + margin
    innerLiteral := key.innerLiteral.map (·.behind margin) }

/-- The second block absorbs what the first one does, by a margin further right. -/
structure ShellBlock.Behind (margin : Nat) (first second : ShellBlock) : Prop where
  startIndent : second.startIndent = first.startIndent + margin
  explicit : second.explicit = first.explicit
  isBare : second.isBare = first.isBare

variable {margin : Nat} {token : LineToken} {line : Line}

section

variable (behind : Line.Behind margin token.line line)
include behind

theorem LineToken.indent_moved : (token.moved line).indent = token.indent + margin :=
  behind.indent

theorem LineToken.keyColumn_moved : (token.moved line).keyColumn = token.keyColumn + margin := by
  unfold keyColumn
  rw [indent_moved behind, show (token.moved line).dashed = token.dashed from rfl]
  split
  · exact Nat.add_right_comm _ _ _
  · rfl

/-- A block accepts a line if the other block accepts the moved line. -/
theorem ShellBlock.Behind.accepts {first second : ShellBlock} (blocks : first.Behind margin second) :
    second.accepts (token.moved line) = first.accepts token := by
  unfold ShellBlock.accepts
  rw [blocks.explicit, blocks.isBare, blocks.startIndent, LineToken.indent_moved behind,
    show (token.moved line).role = token.role from rfl,
    show (token.moved line).opensBlock = token.opensBlock from rfl]
  simp only [Nat.add_lt_add_iff_right, Nat.add_le_add_iff_right]

end

/-! ## Roles -/

/-- A line has the same role when everything is further right. -/
theorem Role.ofFacts_behind {facts : LineFacts} (behind : Line.Behind margin facts.line line)
    (around : Surroundings) :
    Role.ofFacts { facts with line }
        { around with taskIndent := around.taskIndent.map (· + margin) } =
      Role.ofFacts facts around := by
  have content : LineFacts.content { facts with line } = facts.content := behind.content
  have indent : LineFacts.indent { facts with line } = facts.indent + margin := behind.indent
  have hasKey (key : String) : LineFacts.hasKey { facts with line } key = facts.hasKey key := rfl
  have below : Rule.isBelowTask { around with taskIndent := around.taskIndent.map (· + margin) }
      (facts.indent + margin) = Rule.isBelowTask around facts.indent := by
    unfold Rule.isBelowTask
    cases around.taskIndent with
    | none => rfl
    | some task => simp [Nat.add_right_comm task margin 2]
  have taskScope : Rule.isTaskScope { around with taskIndent := around.taskIndent.map (· + margin) }
      (facts.indent + margin) = Rule.isTaskScope around facts.indent := by
    unfold Rule.isTaskScope
    cases around.taskIndent with
    | none => rfl
    | some task => simp
  have rules : ∀ rule ∈ Rule.all,
      rule.claim { facts with line }
          { around with taskIndent := around.taskIndent.map (· + margin) } =
        rule.claim facts around := by
    intro rule member
    simp only [Rule.all, List.mem_cons, List.not_mem_nil, or_false] at member
    rcases member with rfl | rfl | rfl | rfl | rfl | rfl | rfl | rfl | rfl | rfl
    · simp only [Rule.documentMarker, content]
    · simp only [Rule.blank, content]
    · simp only [Rule.comment, content]
    · simp only [Rule.playHeader, hasKey, Option.isSome_map]
    · simp only [Rule.taskHeader, indent, below, hasKey]
    · simp only [Rule.keyword, indent, taskScope]
    · rfl
    · simp only [Rule.shellFragment, content]
    · rfl
    · rfl
  rw [Role.ofFacts, Role.ofFacts, ← List.head?_filterMap, ← List.head?_filterMap,
    List.filterMap_congr rules]

namespace Tracker

/-! ## Records -/

/-- What a tracker has written, reported and gathered. -/
structure Record where
  out : List Text
  ambiguities : List Ambiguity
  shell : Option ShellBlock
  taskAction : Option TaskAction
  reopened : Option Placement

/-- What the tracker has written, reported and gathered. -/
def record (tracker : Tracker) : Record where
  out := tracker.out
  ambiguities := tracker.ambiguities
  shell := tracker.nesting.shell
  taskAction := tracker.taskAction
  reopened := tracker.reopened

namespace Record

/-- The record with one more line. -/
def emitLine (record : Record) (line : Text) : Record := { record with out := record.out ++ [line] }

/-- The record with one more report. -/
def note (record : Record) (report : Ambiguity) : Record :=
  { record with ambiguities := record.ambiguities ++ [report] }

/-- The record with another action of the task. -/
def withAction (record : Record) (taskAction : Option TaskAction) : Record :=
  { record with taskAction }

/-- The record with a block open. -/
def withShell (record : Record) (block : ShellBlock) : Record :=
  { record with shell := some block }

/-- The record with a block open that has been written before. -/
def rejoin (record : Record) (block : ShellBlock) (placement : Placement) : Record :=
  { record with shell := some block, taskAction := none, reopened := some placement }

/-- Where the open block is to be written: at its earlier place, or at the end. -/
def placement (record : Record) (depth : Nat) (dashed : Bool) : Placement :=
  record.reopened.getD { start := record.out.length, length := 0, depth, dashed }

/-- The record after the open block has been written at a place. -/
def close (record : Record) (mode : RebuildMode) (inTask : Bool) (block : ShellBlock)
    (placement : Placement) : Record where
  out := record.out.take placement.start ++ shellLines mode block placement ++
    record.out.drop (placement.start + placement.length) ++
      if mode = .incremental && block.pendingBlanks > 0 then [[]] else []
  ambiguities := record.ambiguities
  shell := none
  taskAction :=
    if inTask then
      some (if block.isBare then .other else
        .shell block { placement with length := (shellLines mode block placement).length })
    else record.taskAction
  reopened := none

end Record

theorem record_closeShell (tracker : Tracker) (block : ShellBlock) :
    (tracker.closeShell block).record =
      tracker.record.close tracker.mode tracker.nesting.task.isSome block
        (tracker.record.placement tracker.nesting.keyColumn
          (tracker.nesting.task.isSome && tracker.pendingDash)) := by
  unfold closeShell Record.close
  dsimp only
  split
  · rfl
  · rw [List.append_nil]
    rfl

/-- The tasks run blocks at the same place, or both another module, or nothing yet. -/
inductive ActionsAlike : Option TaskAction → Option TaskAction → Prop
  | none : ActionsAlike none none
  | other : ActionsAlike (some .other) (some .other)
  | shell (first second : ShellBlock) (placement : Placement) :
      ActionsAlike (some (.shell first placement)) (some (.shell second placement))

/-- The relation of records that is meant holds on while the same is done to both: the `resting`
relation without an open block, the `gathering` relation with one. The line of a token may be
`alike` to the other line in its place, and tokens may be `copied` as they stand in the source. -/
structure Keeps (margin : Nat) (alike : LineToken → Line → Prop) (copied : LineToken → Prop)
    (resting gathering : Record → Record → Prop) : Prop where
  behind : ∀ {token line}, alike token line → Line.Behind margin token.line line
  emitLine : ∀ {first second} line, resting first second →
    resting (first.emitLine line) (second.emitLine line)
  copyLine : ∀ {first second token line}, alike token line → token.content ≠ [] →
    copied token → resting first second →
    resting (first.emitLine (Text.trimEnd token.line.raw)) (second.emitLine (Text.trimEnd line.raw))
  note : ∀ {first second} report, resting first second →
    resting (first.note report) (second.note report)
  withAction : ∀ {first second} action, action = none ∨ action = some .other →
    resting first second → resting (first.withAction action) (second.withAction action)
  closed : ∀ {first second}, resting first second → first.shell = none ∧ second.shell = none
  lastLine : ∀ {first second}, resting first second →
    second.out.getLast?.any (!·.isEmpty) = first.out.getLast?.any (!·.isEmpty)
  actions : ∀ {first second}, resting first second →
    ActionsAlike first.taskAction second.taskAction
  opens : ∀ {first second token line block other}, alike token line → token.content ≠ [] →
    block = .ofModule token ∧ other = .ofModule (token.moved line) ∨
      block = .ofFragment token ∧ other = .ofFragment (token.moved line) →
    resting first second → gathering (first.withShell block) (second.withShell other)
  rejoins : ∀ {first second token line block other placement}, alike token line →
    token.content ≠ [] → first.taskAction = some (.shell block placement) →
    second.taskAction = some (.shell other placement) → resting first second →
    gathering (first.rejoin (block.reopen.push token) placement)
      (second.rejoin (other.reopen.push (token.moved line)) placement)
  blocks : ∀ {first second}, gathering first second → ∃ block other,
    first.shell = some block ∧ second.shell = some other ∧ block.Behind margin other
  place : ∀ {first second}, gathering first second →
    second.reopened = first.reopened ∧ second.out.length = first.out.length
  waits : ∀ {first second block other}, first.shell = some block → second.shell = some other →
    gathering first second → gathering (first.withShell block.pushBlank)
      (second.withShell other.pushBlank)
  absorbs : ∀ {first second block other token line}, alike token line → token.content ≠ [] →
    first.shell = some block → second.shell = some other → gathering first second →
    gathering (first.withShell (block.push token))
      (second.withShell (other.push (token.moved line)))
  closes : ∀ {first second block other} mode inTask depth dashed, first.shell = some block →
    second.shell = some other → gathering first second →
    resting (first.close mode inTask block (first.placement depth dashed))
      (second.close mode inTask other (first.placement depth dashed))

/-- The records are in one of two relations. -/
def Record.Either (resting gathering : Record → Record → Prop) (first second : Record) : Prop :=
  resting first second ∨ gathering first second

/-- The trackers have the same open, the second by a margin further right in the source, and their
records are related. -/
structure InStep (margin : Nat) (related : Record → Record → Prop) (first second : Tracker) :
    Prop where
  mode : second.mode = first.mode
  kind : second.kind = first.kind
  play : second.nesting.play = first.nesting.play.map (· + margin)
  taskSection : second.nesting.taskSection = first.nesting.taskSection.map (· + margin)
  task : second.nesting.task = first.nesting.task.map (· + margin)
  openKey : second.nesting.openKey = first.nesting.openKey.map (·.behind margin)
  lastKeyColumn : second.lastKeyColumn = first.lastKeyColumn
  pendingDash : second.pendingDash = first.pendingDash
  record : related first.record second.record

variable {alike : LineToken → Line → Prop} {copied : LineToken → Prop}
  {related resting gathering : Record → Record → Prop} {first second : Tracker}

section Silent

variable (inStep : InStep margin related first second)
include inStep

theorem InStep.withPendingDash (pendingDash : Bool) :
    InStep margin related { first with pendingDash } { second with pendingDash } :=
  { inStep with pendingDash := rfl }

theorem InStep.withLastKeyColumn (lastKeyColumn : Option Nat) :
    InStep margin related { first with lastKeyColumn } { second with lastKeyColumn } :=
  { inStep with lastKeyColumn := rfl }

theorem InStep.closeKey : InStep margin related first.closeKey second.closeKey :=
  { inStep with openKey := rfl }

theorem InStep.closeTask : InStep margin related first.closeTask second.closeTask :=
  { inStep with task := rfl, pendingDash := rfl }

theorem InStep.closeTaskAndKey :
    InStep margin related
      (first.withNesting { first.nesting with task := none, openKey := none })
      (second.withNesting { second.nesting with task := none, openKey := none }) :=
  { inStep with task := rfl, openKey := rfl }

theorem InStep.closeSection :
    InStep margin related (first.withNesting { first.nesting with taskSection := none })
      (second.withNesting { second.nesting with taskSection := none }) :=
  { inStep with taskSection := rfl }

theorem InStep.closeTasks :
    InStep margin related (first.withNesting first.nesting.closeTasks)
      (second.withNesting second.nesting.closeTasks) :=
  { inStep with task := rfl, taskSection := rfl, openKey := rfl }

theorem InStep.reset :
    InStep margin related (first.withNesting first.nesting.reset)
      (second.withNesting second.nesting.reset) :=
  { inStep with play := rfl, task := rfl, taskSection := rfl, openKey := rfl }

theorem InStep.withPlay (column : Nat) :
    InStep margin related (first.withNesting { first.nesting with play := some column })
      (second.withNesting { second.nesting with play := some (column + margin) }) :=
  { inStep with play := rfl }

theorem InStep.withSection (column : Nat) :
    InStep margin related (first.withNesting { first.nesting with taskSection := some column })
      (second.withNesting { second.nesting with taskSection := some (column + margin) }) :=
  { inStep with taskSection := rfl }

theorem InStep.withKey (key : Option OpenKey) :
    InStep margin related (first.withNesting { first.nesting with openKey := key })
      (second.withNesting { second.nesting with openKey := key.map (·.behind margin) }) :=
  { inStep with openKey := rfl }

theorem InStep.afterKey (behind : Line.Behind margin token.line line) (column : Nat) :
    InStep margin related (first.afterKey token column)
      (second.afterKey (token.moved line) column) :=
  { inStep with
    lastKeyColumn := rfl
    openKey := by
      simp only [Tracker.afterKey, LineToken.keyColumn_moved behind,
        show (token.moved line).value = token.value from rfl,
        show (token.moved line).opensBlock = token.opensBlock from rfl]
      split <;> rfl }

theorem InStep.atTaskPosition : second.atTaskPosition = first.atTaskPosition := by
  unfold Tracker.atTaskPosition
  rw [inStep.kind, inStep.play, inStep.taskSection, Option.isSome_map, Option.isSome_map]

theorem InStep.canHoldTask : second.canHoldTask = first.canHoldTask := by
  unfold Tracker.canHoldTask
  rw [inStep.atTaskPosition, inStep.task, Option.isSome_map]

theorem InStep.atActionPosition : second.atActionPosition = first.atActionPosition := by
  unfold Tracker.atActionPosition
  rw [inStep.kind, inStep.play, inStep.taskSection, Option.isSome_map, Option.isNone_map]

end Silent

/-! ## Writing -/

section Writing

variable (keeps : Keeps margin alike copied resting gathering)
  (inStep : InStep margin resting first second)
include keeps inStep

theorem InStep.emitLine (line : Text) :
    InStep margin resting (first.emitLine line) (second.emitLine line) :=
  { inStep with record := keeps.emitLine line inStep.record }

theorem InStep.emit (column : Nat) (text : Text) :
    InStep margin resting (first.emit column text) (second.emit column text) :=
  inStep.emitLine keeps (indented column text)

theorem InStep.withTaskAction (action : Option TaskAction)
    (noShell : action = none ∨ action = some .other) :
    InStep margin resting { first with taskAction := action }
      { second with taskAction := action } :=
  { inStep with record := keeps.withAction action noShell inStep.record }

theorem InStep.note (isAlike : alike token line) (reason : AmbiguityReason) :
    InStep margin resting (first.note token reason) (second.note (token.moved line) reason) := by
  have behind := keeps.behind isAlike
  have same : (⟨(token.moved line).line.number, (token.moved line).content, reason⟩ : Ambiguity) =
      ⟨token.line.number, token.content, reason⟩ := by
    rw [show (token.moved line).line.number = token.line.number from behind.number,
      show (token.moved line).content = token.content from behind.content]
  refine { inStep with record := ?_ }
  have noted := keeps.note ⟨token.line.number, token.content, reason⟩ inStep.record
  simp only [Tracker.note, same]
  exact noted

theorem InStep.emitTaskLine (text : Text) :
    InStep margin resting (first.emitTaskLine text) (second.emitTaskLine text) := by
  unfold Tracker.emitTaskLine
  rw [inStep.pendingDash]
  split
  · exact (inStep.withPendingDash false).emit keeps _ _
  · exact inStep.emit keeps _ _

theorem InStep.emitKey (isAlike : alike token line) (column : Nat) :
    InStep margin resting (first.emitKey token column)
      (second.emitKey (token.moved line) column) :=
  (inStep.emit keeps column token.keyedText).afterKey (keeps.behind isAlike) column

theorem InStep.emitHeader (isAlike : alike token line) (column : Nat) :
    InStep margin resting (first.emitHeader token column)
      (second.emitHeader (token.moved line) column) :=
  (inStep.emit keeps column (listItemText token.keyedText)).afterKey (keeps.behind isAlike)
    (column + indentStep)

theorem InStep.emitTaskKey (isAlike : alike token line) :
    InStep margin resting (first.emitTaskKey token) (second.emitTaskKey (token.moved line)) :=
  (inStep.closeKey.emitTaskLine keeps token.keyedText).afterKey (keeps.behind isAlike)
    taskKeyColumn

theorem InStep.copyLine (isAlike : alike token line) (hasContent : token.content ≠ [])
    (isCopied : copied token) :
    InStep margin resting (first.copyLine token) (second.copyLine (token.moved line)) := by
  unfold Tracker.copyLine
  rw [inStep.mode]
  split
  · exact { inStep with record := keeps.copyLine isAlike hasContent isCopied inStep.record }
  · exact inStep

theorem InStep.ensureTaskSection (column : Nat) :
    InStep margin resting (first.ensureTaskSection column)
      (second.ensureTaskSection (column + margin)) := by
  unfold Tracker.ensureTaskSection
  simp only [inStep.play, inStep.taskSection, Option.isSome_map, Option.isNone_map]
  split
  · exact (inStep.emit keeps _ _).withSection column
  · exact inStep

theorem InStep.openTask (column : Nat) :
    InStep margin resting (first.openTask column) (second.openTask (column + margin)) :=
  { inStep with task := rfl, record := keeps.withAction none (.inl rfl) inStep.record }

/-- A task is opened by the margin further right unless its column is cut. -/
theorem InStep.ensureTask {column : Nat}
    (uncut : first.nesting.task.isNone → margin = 0 ∨ indentStep ≤ column) :
    InStep margin resting (first.ensureTask column) (second.ensureTask (column + margin)) := by
  unfold Tracker.ensureTask
  rw [inStep.task, Option.isSome_map]
  split
  · exact inStep
  · next noTask =>
      have moved : column + margin - indentStep = column - indentStep + margin := by
        have := uncut (by simpa using noTask)
        omega
      rw [moved]
      exact ((inStep.ensureTaskSection keeps _).openTask keeps _).withPendingDash true

end Writing

end Tracker

end PlaybookRepair
