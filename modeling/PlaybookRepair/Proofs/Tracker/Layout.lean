import Mathlib.Data.List.Basic
import PlaybookRepair.Proofs.Tracker.Push

/-!
# Trackers that differ in layout

In the canonical mode the tracker places a line by its role alone. Source columns are stored in what
it has open, and line numbers in its reports, but neither is read again as long as no script and no
block scalar is about. `Tracker.Alike` relates two trackers that differ in nothing else. Two lines
of the same content and role keep trackers alike (`Alike.push`), a blank line or a comment leaves
the tracker as it is (`Alike.push_of_silent`), and the role of a line is the same in the
surroundings of either (`Alike.role`).
-/

namespace PlaybookRepair

open Catalog (ShellFamily isShellModule isTaskSection)
open InlineValue (isBlockIndicator)

/-- What a report says, whatever the number of its line. -/
def Ambiguity.finding (report : Ambiguity) : Text × AmbiguityReason :=
  (report.content, report.reason)

/-- The line belongs to no script and opens no block scalar. -/
structure LineFacts.IsPlain (facts : LineFacts) : Prop where
  noFragment : ShellFamily.ofContent? facts.content = none
  noShellKey : facts.key.any isShellModule = false
  noIndicator : isBlockIndicator facts.value = false

/-- The token of another line. -/
def LineToken.moved (token : LineToken) (line : Line) : LineToken := { token with line }

theorem LineToken.nestedText_moved (token : LineToken) {line : Line}
    (same : line.content = token.content) : (token.moved line).nestedText = token.nestedText := by
  unfold nestedText
  split <;> simp_all [moved, keyedText, LineFacts.content]

namespace Tracker

/-- Two open keys that differ at most in the source column, neither with a block scalar. -/
inductive KeysAlike : Option OpenKey → Option OpenKey → Prop
  | closed : KeysAlike none none
  | opened (first second column : Nat) :
      KeysAlike (some { sourceIndent := first, depth := column, literal := false })
        (some { sourceIndent := second, depth := column, literal := false })

/-- The trackers are in the canonical mode, without a shell block, and differ only in source columns
and in the numbers of reported lines. -/
structure Alike (first second : Tracker) : Prop where
  mode : first.mode = .canonical ∧ second.mode = .canonical
  kind : second.kind = first.kind
  play : second.nesting.play.isSome = first.nesting.play.isSome
  taskSection : second.nesting.taskSection.isSome = first.nesting.taskSection.isSome
  task : second.nesting.task.isSome = first.nesting.task.isSome
  openKey : KeysAlike first.nesting.openKey second.nesting.openKey
  shell : first.nesting.shell = none ∧ second.nesting.shell = none
  out : second.out = first.out
  findings : second.ambiguities.map Ambiguity.finding = first.ambiguities.map Ambiguity.finding
  lastKeyColumn : second.lastKeyColumn = first.lastKeyColumn
  pendingDash : second.pendingDash = first.pendingDash

theorem alike_start (kind : FileKind) :
    Alike (.start .canonical kind) (.start .canonical kind) where
  mode := ⟨rfl, rfl⟩
  kind := rfl
  play := rfl
  taskSection := rfl
  task := rfl
  openKey := .closed
  shell := ⟨rfl, rfl⟩
  out := rfl
  findings := rfl
  lastKeyColumn := rfl
  pendingDash := rfl

variable {first second : Tracker} {token : LineToken} {line : Line}

/-! ## Writing -/

theorem Alike.emit (alike : Alike first second) (column : Nat) (text : Text) :
    Alike (first.emit column text) (second.emit column text) :=
  { alike with
    out := by
      change second.out ++ [indented column text] = first.out ++ [indented column text]
      rw [alike.out] }

theorem Alike.note (alike : Alike first second) (same : line.content = token.content)
    (reason : AmbiguityReason) :
    Alike (first.note token reason) (second.note (token.moved line) reason) :=
  { alike with
    findings := by
      simp only [Tracker.note, List.map_append, alike.findings, List.map_cons, List.map_nil,
        Ambiguity.finding, LineToken.moved, LineFacts.content]
      rw [same]
      rfl }

theorem Alike.withPendingDash (alike : Alike first second) (pendingDash : Bool) :
    Alike { first with pendingDash } { second with pendingDash } :=
  { alike with pendingDash := rfl }

theorem Alike.withLastKeyColumn (alike : Alike first second) (lastKeyColumn : Option Nat) :
    Alike { first with lastKeyColumn } { second with lastKeyColumn } :=
  { alike with lastKeyColumn := rfl }

theorem Alike.withTaskAction (alike : Alike first second) (action : Option TaskAction) :
    Alike { first with taskAction := action } { second with taskAction := action } :=
  { alike with }

/-! ## What is open -/

theorem Alike.closeKey (alike : Alike first second) : Alike first.closeKey second.closeKey :=
  { alike with openKey := .closed }

theorem Alike.withTask (alike : Alike first second) (firstColumn secondColumn : Nat) :
    Alike (first.withNesting { first.nesting with task := some firstColumn })
      (second.withNesting { second.nesting with task := some secondColumn }) :=
  { alike with task := rfl }

theorem Alike.closeTaskAndKey (alike : Alike first second) :
    Alike (first.withNesting { first.nesting with task := none, openKey := none })
      (second.withNesting { second.nesting with task := none, openKey := none }) :=
  { alike with task := rfl, openKey := .closed }

theorem Alike.withSection (alike : Alike first second) (firstColumn secondColumn : Nat) :
    Alike (first.withNesting { first.nesting with taskSection := some firstColumn })
      (second.withNesting { second.nesting with taskSection := some secondColumn }) :=
  { alike with taskSection := rfl }

theorem Alike.closeTasks (alike : Alike first second) :
    Alike (first.withNesting first.nesting.closeTasks)
      (second.withNesting second.nesting.closeTasks) :=
  { alike with task := rfl, taskSection := rfl, openKey := .closed }

theorem Alike.reset (alike : Alike first second) :
    Alike (first.withNesting first.nesting.reset) (second.withNesting second.nesting.reset) :=
  { alike with play := rfl, task := rfl, taskSection := rfl, openKey := .closed }

theorem Alike.withPlay (alike : Alike first second) (firstColumn secondColumn : Nat) :
    Alike (first.withNesting { first.nesting with play := some firstColumn })
      (second.withNesting { second.nesting with play := some secondColumn }) :=
  { alike with play := rfl }

/-- A key is open after its line if its value is on the lines below, at the same written column. -/
theorem Alike.afterKey (alike : Alike first second) (plain : token.IsPlain) (column : Nat) :
    Alike (first.afterKey token column) (second.afterKey (token.moved line) column) :=
  { alike with
    lastKeyColumn := rfl
    openKey := by
      simp only [Tracker.afterKey, plain.noIndicator,
        show (token.moved line).value = token.value from rfl,
        show (token.moved line).opensBlock = token.opensBlock from rfl]
      split
      · exact .opened _ _ column
      · exact .closed }

/-! ## Keys and tasks -/

theorem Alike.emitKey (alike : Alike first second) (plain : token.IsPlain) (column : Nat) :
    Alike (first.emitKey token column) (second.emitKey (token.moved line) column) :=
  (alike.emit column token.keyedText).afterKey plain column

theorem Alike.emitHeader (alike : Alike first second) (plain : token.IsPlain) (column : Nat) :
    Alike (first.emitHeader token column) (second.emitHeader (token.moved line) column) :=
  (alike.emit column (listItemText token.keyedText)).afterKey plain (column + indentStep)

theorem Alike.emitTaskLine (alike : Alike first second) (text : Text) :
    Alike (first.emitTaskLine text) (second.emitTaskLine text) := by
  unfold Tracker.emitTaskLine
  rw [alike.pendingDash]
  split
  · exact (alike.withPendingDash false).emit _ _
  · exact alike.emit _ _

theorem Alike.emitTaskKey (alike : Alike first second) (plain : token.IsPlain) :
    Alike (first.emitTaskKey token) (second.emitTaskKey (token.moved line)) :=
  (alike.closeKey.emitTaskLine token.keyedText).afterKey plain taskKeyColumn

theorem Alike.atTaskPosition (alike : Alike first second) :
    second.atTaskPosition = first.atTaskPosition := by
  unfold Tracker.atTaskPosition
  rw [alike.kind, alike.play, alike.taskSection]

theorem Alike.canHoldTask (alike : Alike first second) :
    second.canHoldTask = first.canHoldTask := by
  unfold Tracker.canHoldTask
  rw [alike.task, alike.atTaskPosition]

theorem Alike.atActionPosition (alike : Alike first second) :
    second.atActionPosition = first.atActionPosition := by
  unfold Tracker.atActionPosition
  simp only [alike.taskSection, ← Option.not_isSome, alike.play, alike.kind]

theorem Alike.ensureTaskSection (alike : Alike first second) (firstColumn secondColumn : Nat) :
    Alike (first.ensureTaskSection firstColumn) (second.ensureTaskSection secondColumn) := by
  unfold Tracker.ensureTaskSection
  simp only [← Option.not_isSome, alike.play, alike.taskSection]
  split
  · exact (alike.emit _ _).withSection _ _
  · exact alike

theorem Alike.openTask (alike : Alike first second) (firstColumn secondColumn : Nat) :
    Alike (first.openTask firstColumn) (second.openTask secondColumn) :=
  (alike.withTask firstColumn secondColumn).withTaskAction none

theorem Alike.ensureTask (alike : Alike first second) (firstColumn secondColumn : Nat) :
    Alike (first.ensureTask firstColumn) (second.ensureTask secondColumn) := by
  unfold Tracker.ensureTask
  simp only [alike.task]
  split
  · exact alike
  · exact ((alike.ensureTaskSection _ _).openTask _ _).withPendingDash true

/-! ## Lines by their role -/

section Roles

variable (alike : Alike first second) (plain : token.IsPlain) (same : line.content = token.content)
include alike

theorem Alike.pushDocumentMarker :
    Alike (first.pushDocumentMarker token) (second.pushDocumentMarker (token.moved line)) := by
  have closed := (alike.reset.withLastKeyColumn none).withPendingDash false
  unfold Tracker.pushDocumentMarker
  rw [if_neg (by simp [alike.mode.1]), if_neg (by simp [alike.mode.2])]
  exact closed

theorem Alike.copyLine (token other : LineToken) :
    first.copyLine token = first ∧ second.copyLine other = second := by
  simp only [Tracker.copyLine, alike.mode, reduceCtorEq, ↓reduceIte, and_self]

include plain

theorem Alike.pushPlayHeader :
    Alike (first.pushPlayHeader token) (second.pushPlayHeader (token.moved line)) :=
  ((alike.reset.withPlay _ _).withPendingDash false).emitHeader plain playColumn

theorem Alike.pushTaskHeader :
    Alike (first.pushTaskHeader token) (second.pushTaskHeader (token.moved line)) :=
  (((alike.closeTaskAndKey.ensureTaskSection _ _).openTask _ _).withPendingDash false).emitHeader
    plain taskColumn

theorem Alike.pushKeyValue :
    Alike (first.pushKeyValue token) (second.pushKeyValue (token.moved line)) := by
  unfold Tracker.pushKeyValue
  simp only [alike.task, alike.atActionPosition, alike.canHoldTask, alike.play]
  split
  · exact alike.emitTaskKey plain
  · split
    · exact (alike.ensureTask _ _).emitTaskKey plain
    · exact alike.emitKey plain _

include same

theorem Alike.pushMisplaced (reason : AmbiguityReason) :
    Alike (first.pushMisplaced token reason)
      (second.pushMisplaced (token.moved line) reason) := by
  have noted := alike.note same reason
  unfold Tracker.pushMisplaced
  simp only [noted.play, noted.canHoldTask]
  split
  · exact (noted.closeTasks.withPendingDash false).emitKey plain _
  · split
    · exact (noted.ensureTask _ _).emitTaskKey plain
    · exact noted.emitKey plain 0

theorem Alike.pushPlayAttribute :
    Alike (first.pushPlayAttribute token) (second.pushPlayAttribute (token.moved line)) := by
  unfold Tracker.pushPlayAttribute
  simp only [← Option.not_isSome, alike.play]
  split
  · exact alike.pushMisplaced plain same _
  · have closed := alike.closeTasks.withPendingDash false
    simp only [show (token.moved line).key = token.key from rfl,
      show (token.moved line).value = token.value from rfl,
      show (token.moved line).opensBlock = token.opensBlock from rfl]
    split
    · exact ((closed.emit playKeyColumn token.keyedText).withLastKeyColumn
        (some playKeyColumn)).withSection token.indent (token.moved line).indent
    · exact closed.emitKey plain playKeyColumn

theorem Alike.pushTaskAttribute :
    Alike (first.pushTaskAttribute token) (second.pushTaskAttribute (token.moved line)) := by
  unfold Tracker.pushTaskAttribute
  simp only [alike.task]
  split
  · exact alike.emitTaskKey plain
  · exact alike.pushMisplaced plain same _

theorem Alike.pushModule :
    Alike (first.pushModule token) (second.pushModule (token.moved line)) := by
  unfold Tracker.pushModule
  simp only [show (token.moved line).key = token.key from rfl, plain.noShellKey,
    Bool.false_eq_true, ↓reduceIte, alike.canHoldTask]
  split
  · exact ((alike.ensureTask _ _).emitTaskKey plain).withTaskAction _
  · exact alike.pushMisplaced plain same _

omit plain

theorem Alike.pushContinuation :
    Alike (first.pushContinuation token) (second.pushContinuation (token.moved line)) := by
  unfold Tracker.pushContinuation
  rw [alike.lastKeyColumn, token.nestedText_moved same]
  split
  · exact alike.emit _ _
  · obtain ⟨firstSame, secondSame⟩ := alike.copyLine token (token.moved line)
    rw [firstSame, secondSame]
    exact alike

theorem Alike.pushUnplaced :
    Alike (first.pushUnplaced token) (second.pushUnplaced (token.moved line)) := by
  unfold Tracker.pushUnplaced
  rw [alike.lastKeyColumn]
  split
  · exact alike.pushContinuation same
  · exact (alike.note same _).pushContinuation same

include plain

theorem Alike.pushListItem :
    Alike (first.pushListItem token) (second.pushListItem (token.moved line)) := by
  have position :
      (second.atTaskPosition && (second.nesting.task.isNone || second.mode = .canonical)) =
        (first.atTaskPosition && (first.nesting.task.isNone || first.mode = .canonical)) := by
    simp only [alike.atTaskPosition, alike.mode, ← Option.not_isSome, alike.task]
  unfold Tracker.pushListItem
  rw [position, token.nestedText_moved same]
  split
  · have placed := ((alike.closeTaskAndKey.withPendingDash false).ensureTaskSection token.indent
      (token.moved line).indent).emit taskColumn token.nestedText
    dsimp only
    rw [show (token.moved line).key = token.key from rfl]
    split
    · exact (placed.openTask _ _).afterKey plain taskKeyColumn
    · exact placed.withLastKeyColumn (some taskColumn)
  · exact (alike.note same _).pushContinuation same

/-- Lines of the same content and role are placed alike. -/
theorem Alike.place (noFragment : ∀ family, token.role ≠ .shellFragment family) :
    Alike (first.place token) (second.place (token.moved line)) := by
  unfold Tracker.place
  rw [show (token.moved line).role = token.role from rfl]
  cases role : token.role with
  | blank => exact alike
  | comment =>
      obtain ⟨firstSame, secondSame⟩ := alike.copyLine token (token.moved line)
      rw [firstSame, secondSame]
      exact alike
  | documentMarker => exact alike.pushDocumentMarker
  | playHeader => exact alike.pushPlayHeader plain
  | taskHeader dashed => exact alike.pushTaskHeader plain
  | playAttribute => exact alike.pushPlayAttribute plain same
  | taskAttribute => exact alike.pushTaskAttribute plain same
  | moduleInvocation => exact alike.pushModule plain same
  | shellFragment family => exact (noFragment family role).elim
  | keyValue => exact alike.pushKeyValue plain
  | listItem => exact alike.pushListItem plain same
  | continuation => exact alike.pushUnplaced same

end Roles

/-! ## One line -/

/-- Whether a line of the role belongs to the value of an open key, whatever its column. -/
def nestsByRole (role : Role) : Bool := role = .keyValue || role = .listItem || role = .continuation

section Open

variable {tracker : Tracker} (canonical : tracker.mode = .canonical) {sourceColumn column : Nat}
  (isOpen : tracker.nesting.openKey =
    some { sourceIndent := sourceColumn, depth := column, literal := false })
include canonical isOpen

theorem takeNested?_of_apartByRole (apart : nestsByRole token.role = false) :
    tracker.takeNested? token = none := by
  refine takeNested?_of_apart isOpen ?_
  unfold nestsByRole at apart
  simp only [keyAt, Option.filter_none, nestsUnder, canonical, Option.isSome_none,
    Bool.false_eq_true, ↓reduceIte, apart]

theorem takeNested?_of_nestsByRole (noIndicator : isBlockIndicator token.value = false)
    (nested : nestsByRole token.role) :
    tracker.takeNested? token = some (tracker.emit (column + indentStep) token.nestedText) := by
  unfold nestsByRole at nested
  rw [takeNested?_of_nests isOpen]
  · simp only [keyAt, Option.filter_none, Option.isSome_none, Bool.false_eq_true, ↓reduceIte,
      nestedColumn, canonical, Option.map_none, Option.getD_none, keyAfter, noIndicator,
      Bool.and_false, Bool.or_self]
    rw [← isOpen]
    rfl
  · simp only [keyAt, Option.filter_none, nestsUnder, canonical, Option.isSome_none,
      Bool.false_eq_true, ↓reduceIte, nested]

end Open

/-- Lines of the same content and role are both part of the open value or both apart from it. -/
theorem Alike.takeNested? (alike : Alike first second) (plain : token.IsPlain)
    (same : line.content = token.content) :
    (first.takeNested? token = none ∧ second.takeNested? (token.moved line) = none) ∨
      ∃ taken other, first.takeNested? token = some taken ∧
        second.takeNested? (token.moved line) = some other ∧ Alike taken other := by
  generalize firstOpen : first.nesting.openKey = firstKey
  generalize secondOpen : second.nesting.openKey = secondKey
  have keys := alike.openKey
  rw [firstOpen, secondOpen] at keys
  cases keys with
  | closed => exact .inl ⟨takeNested?_of_closed firstOpen, takeNested?_of_closed secondOpen⟩
  | opened _ _ column =>
      by_cases nested : nestsByRole token.role
      · have taken := takeNested?_of_nestsByRole alike.mode.1 firstOpen plain.noIndicator nested
        have other : second.takeNested? (token.moved line) = _ :=
          takeNested?_of_nestsByRole alike.mode.2 secondOpen plain.noIndicator nested
        rw [token.nestedText_moved same] at other
        exact .inr ⟨_, _, taken, other, alike.emit _ _⟩
      · have apart : nestsByRole token.role = false := by simpa using nested
        exact .inl ⟨takeNested?_of_apartByRole alike.mode.1 firstOpen apart,
          takeNested?_of_apartByRole alike.mode.2 secondOpen apart⟩

theorem Alike.leave (alike : Alike first second) :
    Alike (first.leave token) (second.leave (token.moved line)) := by
  have left : Alike (first.leaveKey token) (second.leaveKey (token.moved line)) := by
    unfold Tracker.leaveKey
    rw [show (token.moved line).role = token.role from rfl]
    split
    · exact alike
    · exact alike.closeKey
  unfold Tracker.leave
  rw [if_neg (by simp [left.mode.1]), if_neg (by simp [left.mode.2])]
  exact left

/-- A blank line or a comment leaves no trace. -/
theorem Alike.push_of_silent {tracker : Tracker} (alike : Alike tracker tracker)
    (silent : token.role = .blank ∨ token.role = .comment) : tracker.push token = tracker := by
  rw [push_of_noShell alike.shell.1]
  by_cases isBlank : token.role = .blank
  · rw [pushOutsideShell, if_pos isBlank, pushBlank, if_pos alike.mode.1]
  · have isComment := silent.resolve_left isBlank
    have apart : tracker.takeNested? token = none := by
      generalize isOpen : tracker.nesting.openKey = key
      have keys := alike.openKey
      rw [isOpen] at keys
      cases keys with
      | closed => exact takeNested?_of_closed isOpen
      | opened => exact takeNested?_of_apartByRole alike.mode.1 isOpen (by rw [isComment]; rfl)
    have left : tracker.leave token = tracker := by
      simp only [Tracker.leave, leaveKey, isComment, ↓reduceIte, alike.mode, reduceCtorEq]
    rw [pushOutsideShell_of_apart isBlank apart, left, Tracker.place, isComment]
    exact (alike.copyLine token token).1

/-- **One line.** Lines of the same content and role keep trackers alike. -/
theorem Alike.push (alike : Alike first second) (plain : token.IsPlain)
    (noFragment : ∀ family, token.role ≠ .shellFragment family)
    (same : line.content = token.content) :
    Alike (first.push token) (second.push (token.moved line)) := by
  rw [push_of_noShell alike.shell.1, push_of_noShell alike.shell.2]
  by_cases isBlank : token.role = .blank
  · rw [pushOutsideShell, pushOutsideShell, if_pos isBlank,
      if_pos (show (token.moved line).role = .blank from isBlank), pushBlank, pushBlank,
      if_pos alike.mode.1, if_pos alike.mode.2]
    exact alike
  · have notBlank : (token.moved line).role ≠ .blank := isBlank
    rcases alike.takeNested? plain same with ⟨apart, otherApart⟩ | ⟨taken, other, takes, otherTakes,
      stillAlike⟩
    · rw [pushOutsideShell_of_apart isBlank apart, pushOutsideShell_of_apart notBlank otherApart]
      exact alike.leave.place plain same noFragment
    · rw [pushOutsideShell_of_taken isBlank takes, pushOutsideShell_of_taken notBlank otherTakes]
      exact stillAlike

/-! ## Roles -/

/-- Alike trackers give a line of the same content the same role. -/
theorem Alike.role (alike : Alike first second) {facts : LineFacts}
    (same : line.content = facts.content) (previousOpensBlock itemHasHosts : Bool) :
    Role.ofFacts { facts with line } (second.surroundings previousOpensBlock itemHasHosts) =
      Role.ofFacts facts (first.surroundings previousOpensBlock itemHasHosts) := by
  have content : LineFacts.content { facts with line } = facts.content := same
  have hasKey (key : String) : LineFacts.hasKey { facts with line } key = facts.hasKey key := rfl
  have surrounded : second.surroundings previousOpensBlock itemHasHosts =
      { first.surroundings previousOpensBlock itemHasHosts with
        taskIndent := second.nesting.task } := by
    simp [surroundings, alike.kind, alike.play, alike.taskSection, alike.mode]
  have noIndent : (first.surroundings previousOpensBlock itemHasHosts).useIndent = false := by
    simp [surroundings, alike.mode]
  have task : second.nesting.task.isSome =
      (first.surroundings previousOpensBlock itemHasHosts).taskIndent.isSome := alike.task
  rw [surrounded]
  generalize first.surroundings previousOpensBlock itemHasHosts = around at noIndent task ⊢
  -- Only whether a task is open counts where columns are not trusted.
  have taskScope (indent other : Nat) :
      Rule.isTaskScope { around with taskIndent := second.nesting.task } indent =
        Rule.isTaskScope around other := by
    unfold Rule.isTaskScope
    dsimp only
    rw [noIndent]
    cases secondTask : second.nesting.task <;> cases firstTask : around.taskIndent <;>
      simp [secondTask, firstTask] at task ⊢
  have rules : ∀ rule ∈ Rule.all,
      rule.claim { facts with line } { around with taskIndent := second.nesting.task } =
        rule.claim facts around := by
    intro rule member
    simp only [Rule.all, List.mem_cons, List.not_mem_nil, or_false] at member
    rcases member with rfl | rfl | rfl | rfl | rfl | rfl | rfl | rfl | rfl | rfl
    · simp only [Rule.documentMarker, content]
    · simp only [Rule.blank, content]
    · simp only [Rule.comment, content]
    · simp only [Rule.playHeader, hasKey, task]
    · simp only [Rule.taskHeader, Rule.isBelowTask, noIndent, Bool.false_and, hasKey]
    · simp only [Rule.keyword, taskScope _ facts.indent]
    · rfl
    · simp only [Rule.shellFragment, content]
    · rfl
    · rfl
  rw [Role.ofFacts, Role.ofFacts, ← List.head?_filterMap, ← List.head?_filterMap,
    List.filterMap_congr rules]

end Tracker

end PlaybookRepair
