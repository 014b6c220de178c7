import Mathlib.Data.List.Forall2
import PlaybookRepair.Proofs.Outline.Document
import PlaybookRepair.Proofs.Rebuild.InStep
import PlaybookRepair.Proofs.Tidy.Run
import PlaybookRepair.Proofs.Tracker.InStep.Rekeyed

/-!
# Keywords of plays and tasks without a play

In a list of tasks without `hosts` keys no play is ever open. A keyword that is valid on plays and
on tasks is then placed as a keyword of tasks in its place would be (`Swapped.push`), and the rest
of the document does not read it again, so the rebuilt documents differ in that key only
(`rebuild_sharedKeyword`). The exception is a keyword at the column of the list marker of the open
task in the incremental mode (`Tracker.AtMarker`): a keyword of tasks is bound to its task even
there, but one that is valid on plays leaves the task.
-/

namespace PlaybookRepair

open Catalog (keywordScope?)
open InlineValue (isBlockIndicator)
open Outline (Row)

namespace LineFacts.Rekeyed

variable {old new : Text} {token other : LineToken}
  (rekeyed : token.toLineFacts.Rekeyed other.toLineFacts old new)
include rekeyed

theorem opensBlock : other.opensBlock = token.opensBlock := by
  unfold LineToken.opensBlock
  rw [rekeyed.firstKey, rekeyed.secondKey, rekeyed.value]
  rfl

theorem keyedText : Text.Rekeyed old new token.keyedText other.keyedText := by
  unfold LineToken.keyedText
  rw [rekeyed.firstKey, rekeyed.secondKey, rekeyed.value]
  dsimp only [Option.getD_some]
  split
  · exact ⟨[], [':'], nofun, rfl, rfl⟩
  · exact ⟨[], _, nofun, List.append_assoc .., List.append_assoc ..⟩

theorem nestedText : Text.Rekeyed old new token.nestedText other.nestedText := by
  unfold LineToken.nestedText
  rw [rekeyed.firstKey, rekeyed.secondKey, rekeyed.dashed]
  cases token.dashed with
  | true => exact rekeyed.keyedText.item
  | false => exact rekeyed.keyedText

theorem keyColumn : other.keyColumn = token.keyColumn := by
  unfold LineToken.keyColumn
  rw [rekeyed.dashed, show other.indent = token.indent from rekeyed.indent]

/-- The same key is open below either line. -/
theorem afterKey (tracker : Tracker) (column : Nat) :
    tracker.afterKey other column = tracker.afterKey token column := by
  unfold Tracker.afterKey
  rw [rekeyed.keyColumn, rekeyed.value, rekeyed.opensBlock]

end LineFacts.Rekeyed

namespace Tracker

open Record (Either SameClosed SameOpen SettledClosed Unsettled Settled keeps_same keeps_rekeyed)

/-- In a list of tasks a task may start anywhere. -/
theorem atTaskPosition_of_list {tracker : Tracker} (isList : tracker.kind = .taskList) :
    tracker.atTaskPosition = true := by
  unfold atTaskPosition
  rw [isList]

/-- In the incremental mode a line that is no header leaves the task by its column. -/
theorem task_leave_of_ordinary {tracker : Tracker} {token : LineToken}
    (incremental : tracker.mode = .incremental) (notComment : token.role ≠ .comment)
    (noMarker : token.role ≠ .documentMarker) (noHeader : token.role.isHeader = false) :
    (tracker.leave token).nesting.task =
      if tracker.leavesTask token then none else tracker.nesting.task := by
  unfold leave leaveKey
  rw [if_neg notComment]
  dsimp only
  rw [if_pos (show tracker.closeKey.mode = .incremental from incremental), closeByDedent,
    if_neg (by simp [notComment, noMarker, noHeader])]
  dsimp only
  rw [show tracker.closeKey.leavesTask token = tracker.leavesTask token from rfl]
  split <;> split <;> rfl

/-! ## Writing the line -/

theorem OpenKey.behind_zero (key : OpenKey) : key.behind 0 = key := by
  unfold OpenKey.behind InnerLiteral.behind
  cases key with
  | mk sourceIndent depth literal innerLiteral => cases innerLiteral <;> rfl

theorem InStep.refl {related : Record → Record → Prop} {tracker : Tracker}
    (same : related tracker.record tracker.record) : InStep 0 related tracker tracker where
  mode := rfl
  kind := rfl
  play := by simp
  taskSection := by simp
  task := by simp
  openKey := by
    cases tracker.nesting.openKey with
    | none => rfl
    | some key => rw [Option.map_some, OpenKey.behind_zero]
  lastKeyColumn := rfl
  pendingDash := rfl
  record := same

section

variable {old new : Text} {first second : Tracker} {token other : LineToken}

section

variable (inStep : InStep 0 SameClosed first second)
include inStep

/-- Reports need not agree. -/
theorem InStep.noteBoth (token other : LineToken) (reason otherReason : AmbiguityReason) :
    InStep 0 SameClosed (first.note token reason) (second.note other otherReason) :=
  { inStep with
    record := ⟨{ inStep.record.1 with
      sound := ⟨inStep.record.1.sound.single, inStep.record.1.sound.within⟩ }, inStep.record.2⟩ }

theorem InStep.emitLine_rekeyed {line changed : Text}
    (rekeyed : Text.Rekeyed old new line changed) :
    InStep 0 (SettledClosed old new) (first.emitLine line) (second.emitLine changed) := by
  obtain ⟨same, closed⟩ := inStep.record
  have out : second.out = first.out := same.out
  refine { inStep with record := ⟨⟨same.shell, same.reopened, first.out.length,
    ⟨first.out, line, changed, [], rfl, ?_, rekeyed, rfl⟩, ?_⟩, closed⟩ }
  · change second.out ++ [changed] = _
    rw [out]
  · exact .apart same.taskAction same.sound.single fun placement remembers =>
      .inl (same.sound.within placement remembers)

end

section

variable (oldKeyword : keywordScope? old ≠ none) (newKeyword : keywordScope? new ≠ none)
  (rekeyed : token.toLineFacts.Rekeyed other.toLineFacts old new)
  (inStep : InStep 0 SameClosed first second)
include oldKeyword newKeyword inStep

theorem InStep.emit_rekeyed (column : Nat) {text changed : Text}
    (differ : Text.Rekeyed old new text changed) :
    InStep 0 (SettledClosed old new) (first.emit column text) (second.emit column changed) :=
  inStep.emitLine_rekeyed (ShellBlock.rekeyed_indented oldKeyword newKeyword differ column)

theorem InStep.emitTaskLine_rekeyed {text changed : Text}
    (differ : Text.Rekeyed old new text changed) :
    InStep 0 (SettledClosed old new) (first.emitTaskLine text) (second.emitTaskLine changed) := by
  unfold Tracker.emitTaskLine
  rw [inStep.pendingDash]
  split
  · exact (inStep.withPendingDash false).emit_rekeyed oldKeyword newKeyword _ differ.item
  · exact inStep.emit_rekeyed oldKeyword newKeyword _ differ

include rekeyed

/-- A key that is a key of the open task in both. -/
theorem InStep.emitTaskKey_rekeyed :
    InStep 0 (SettledClosed old new) (first.emitTaskKey token) (second.emitTaskKey other) := by
  have written := inStep.closeKey.emitTaskLine_rekeyed oldKeyword newKeyword rekeyed.keyedText
  unfold Tracker.emitTaskKey
  rw [rekeyed.afterKey]
  exact written.afterKey (.refl token.line) taskKeyColumn

/-- In a list of tasks a misplaced key gets a task of its own if none is open. -/
theorem InStep.pushMisplaced_rekeyed (isList : first.kind = .taskList)
    (noPlay : first.nesting.play = none) (reason otherReason : AmbiguityReason) :
    InStep 0 (SettledClosed old new) (first.pushMisplaced token reason)
      (second.pushMisplaced other otherReason) := by
  have noted := inStep.noteBoth token other reason otherReason
  have canHold : (first.note token reason).canHoldTask := by
    change (first.nesting.task.isSome || first.atTaskPosition) = true
    rw [atTaskPosition_of_list isList]
    exact Bool.or_true _
  have noPlayAfter : (second.note other otherReason).nesting.play.isSome = false := by
    rw [noted.play, Option.isSome_map]
    exact congrArg Option.isSome noPlay
  have opened : InStep 0 SameClosed ((first.note token reason).ensureTask token.indent)
      ((second.note other otherReason).ensureTask token.indent) :=
    noted.ensureTask keeps_same fun _ => .inl rfl
  unfold Tracker.pushMisplaced
  dsimp only
  rw [noPlayAfter, show (first.note token reason).nesting.play.isSome = false from
    congrArg Option.isSome noPlay, noted.canHoldTask, canHold,
    show other.indent = token.indent from rekeyed.indent]
  exact opened.emitTaskKey_rekeyed oldKeyword newKeyword rekeyed

/-- A list item is placed alike. -/
theorem InStep.pushListItem_rekeyed (isList : first.kind = .taskList) :
    InStep 0 (SettledClosed old new) (first.pushListItem token) (second.pushListItem other) := by
  have newItem :
      (second.atTaskPosition && (second.nesting.task.isNone || second.mode = .canonical)) =
        (first.atTaskPosition && (first.nesting.task.isNone || first.mode = .canonical)) := by
    rw [inStep.atTaskPosition, inStep.task, Option.isNone_map, inStep.mode]
  have atPosition := atTaskPosition_of_list isList
  unfold Tracker.pushListItem
  rw [newItem, show other.indent = token.indent from rekeyed.indent, rekeyed.firstKey,
    rekeyed.secondKey]
  dsimp only
  rw [rekeyed.afterKey]
  split
  · have placed := ((inStep.closeTaskAndKey.withPendingDash false).ensureTaskSection keeps_same
      token.indent).emit_rekeyed oldKeyword newKeyword taskColumn rekeyed.nestedText
    exact (placed.openTask (keeps_rekeyed oldKeyword newKeyword) _).afterKey (.refl token.line)
      taskKeyColumn
  · next elsewhere =>
      have noted := inStep.noteBoth token other .itemOutsideList .itemOutsideList
      have incremental : (first.note token .itemOutsideList).mode = .incremental := by
        change first.mode = .incremental
        cases mode : first.mode with
        | incremental => rfl
        | canonical => simp [atPosition, mode] at elsewhere
      unfold Tracker.pushContinuation
      rw [noted.lastKeyColumn]
      split
      · exact noted.emit_rekeyed oldKeyword newKeyword _ rekeyed.nestedText
      · unfold Tracker.copyLine
        rw [if_pos incremental, if_pos (noted.mode.trans incremental)]
        exact noted.emitLine_rekeyed rekeyed.copy

end

end

/-! ## The line -/

/-- The line stands at the column of the list marker of the open task, and neither an open value nor
a shell block takes it. -/
def AtMarker (tracker : Tracker) (token : LineToken) : Prop :=
  tracker.mode = .incremental ∧ token.dashed = false ∧ tracker.extendShell? token = none ∧
    tracker.flushShell.takeNested? token = none ∧ tracker.nesting.task = some token.indent

instance (tracker : Tracker) (token : LineToken) : Decidable (tracker.AtMarker token) :=
  inferInstanceAs (Decidable (_ ∧ _))

/-- In the place of a keyword of tasks stands one that is valid on plays as well. It has the role of
the other one, unless it stands in an open task, no deeper than the list marker of the task. -/
structure Swapped (tracker : Tracker) (old new : Text) (token other : LineToken) : Prop where
  oldKeyword : keywordScope? old ≠ none
  newKeyword : keywordScope? new ≠ none
  rekeyed : token.toLineFacts.Rekeyed other.toLineFacts old new
  roles : other.role = token.role ∧ (token.role = .listItem ∨ token.role = .taskAttribute) ∨
    token.role = .taskAttribute ∧ other.role = .playAttribute ∧ token.dashed = false ∧
      tracker.mode = .incremental ∧
      ∃ task, tracker.nesting.task = some task ∧ token.indent ≤ task

namespace Swapped

variable {tracker : Tracker} {old new : Text} {token other : LineToken}
  (swapped : tracker.Swapped old new token other)
include swapped

/-- Neither line is blank. -/
theorem notBlank : token.role ≠ .blank ∧ other.role ≠ .blank := by
  rcases swapped.roles with ⟨same, role | role⟩ | ⟨role, otherRole, _⟩
  · simp [same, role]
  · simp [same, role]
  · simp [role, otherRole]

/-- Neither line is a comment. -/
theorem notComment : token.role ≠ .comment ∧ other.role ≠ .comment := by
  rcases swapped.roles with ⟨same, role | role⟩ | ⟨role, otherRole, _⟩
  · simp [same, role]
  · simp [same, role]
  · simp [role, otherRole]

theorem indent_eq : other.indent = token.indent := swapped.rekeyed.indent

theorem dashed_eq : other.dashed = token.dashed := swapped.rekeyed.dashed

/-- A shell block accepts both lines or neither. -/
theorem accepts (block : ShellBlock) : block.accepts other = block.accepts token := by
  unfold ShellBlock.accepts
  rw [swapped.indent_eq, swapped.rekeyed.opensBlock]
  rcases swapped.roles with ⟨same, _⟩ | ⟨role, otherRole, _⟩
  · rw [same]
  · rw [role, otherRole]
    rfl

/-- An open value takes both lines or neither. -/
theorem nestsUnder (ready : Tracker) (key : OpenKey) :
    keyAt key other = keyAt key token ∧ ready.nestsUnder key other = ready.nestsUnder key token ∧
      ready.nestedColumn key other = ready.nestedColumn key token ∧
      ∀ column, keyAfter key other column = keyAfter key token column := by
  have isHeader : other.role.isHeader = token.role.isHeader := by
    rcases swapped.roles with ⟨same, _⟩ | ⟨role, otherRole, _⟩
    · rw [same]
    · rw [role, otherRole]
      rfl
  have isContent : (other.role = .keyValue || other.role = .listItem ||
      other.role = .continuation) =
        (token.role = .keyValue || token.role = .listItem || token.role = .continuation) := by
    rcases swapped.roles with ⟨same, _⟩ | ⟨role, otherRole, _⟩
    · rw [same]
    · rw [role, otherRole]
      rfl
  refine ⟨?_, ?_, ?_, fun column => ?_⟩
  · unfold keyAt
    rw [swapped.indent_eq]
  · unfold Tracker.nestsUnder
    rw [swapped.indent_eq, swapped.dashed_eq, isHeader, isContent]
  · unfold Tracker.nestedColumn
    rw [swapped.indent_eq]
  · unfold keyAfter
    rw [swapped.indent_eq, swapped.dashed_eq, swapped.rekeyed.value, swapped.rekeyed.firstKey,
      swapped.rekeyed.secondKey]
    rfl

/-- Outside a play both lines leave the same, unless they stand at the column of the list marker. -/
theorem leave {ready : Tracker} (noPlay : ready.nesting.play = none)
    (mode : ready.mode = tracker.mode) (task : ready.nesting.task = tracker.nesting.task)
    (elsewhere : tracker.mode = .incremental → token.dashed = false →
      tracker.nesting.task ≠ some token.indent) :
    ready.leave other = ready.leave token ∧
      (other.role ≠ token.role → (ready.leave token).nesting.task = none) := by
  rcases swapped.roles with ⟨same, _⟩ | ⟨role, otherRole, notDashed, incremental, column, isOpen,
    notDeeper⟩
  · refine ⟨?_, fun differs => (differs same).elim⟩
    unfold Tracker.leave leaveKey closeByDedent leavesTask leavesSection
    rw [swapped.indent_eq, swapped.dashed_eq, same]
  · have left : token.indent < column := by
      refine lt_of_le_of_ne notDeeper fun isColumn => elsewhere incremental notDashed ?_
      rw [isOpen, isColumn]
    have leaves {line : LineToken} (isAttribute : line.role = .taskAttribute ∨
        line.role = .playAttribute) (indent : line.indent = token.indent) :
        ready.leave line = ready.closeKey.closeTask := by
      have ordinary : line.role ≠ .comment ∧ (line.role = .comment || line.role = .documentMarker ||
          line.role.isHeader) = false := by
        rcases isAttribute with isAttribute | isAttribute <;> simp [isAttribute, Role.isHeader]
      have leavesTask : ready.closeKey.leavesTask line = true := by
        unfold Tracker.leavesTask
        rw [show ready.closeKey.nesting.task = some column from task.trans isOpen, indent]
        simp [left]
      have staysInSection : ready.closeKey.closeTask.leavesSection line = false := by
        unfold Tracker.leavesSection
        rw [show ready.closeKey.closeTask.nesting.play = none from noPlay]
        rfl
      unfold Tracker.leave leaveKey
      rw [if_neg ordinary.1]
      dsimp only
      rw [if_pos (show ready.closeKey.mode = .incremental from mode.trans incremental)]
      unfold closeByDedent
      rw [if_neg (by simp [ordinary.2]), leavesTask]
      dsimp only
      rw [if_pos rfl, staysInSection, if_neg (by simp)]
    rw [leaves (.inr otherRole) swapped.indent_eq, leaves (.inl role) rfl]
    exact ⟨rfl, fun _ => rfl⟩

/-- Both lines are part of the open key's value, or neither is. -/
theorem takeNested? {ready : Tracker} (agrees : SameClosed ready.record ready.record) :
    (ready.takeNested? token = none ∧ ready.takeNested? other = none) ∨
      ∃ taken changed, ready.takeNested? token = some taken ∧
        ready.takeNested? other = some changed ∧
        InStep 0 (SettledClosed old new) taken changed := by
  cases isOpen : ready.nesting.openKey with
  | none => exact .inl ⟨takeNested?_of_closed isOpen, takeNested?_of_closed isOpen⟩
  | some key =>
      obtain ⟨sameKey, _⟩ := swapped.nestsUnder ready key
      obtain ⟨_, sameNests, sameColumn, sameAfter⟩ := swapped.nestsUnder ready (keyAt key token)
      cases nests : ready.nestsUnder (keyAt key token) token with
      | false =>
          exact .inl ⟨takeNested?_of_apart isOpen nests,
            takeNested?_of_apart isOpen (by rw [sameKey, sameNests, nests])⟩
      | true =>
          have changed : ready.takeNested? other = _ :=
            takeNested?_of_nests isOpen (by rw [sameKey, sameNests, nests])
          rw [sameKey, sameColumn, sameAfter] at changed
          refine .inr ⟨_, _, takeNested?_of_nests isOpen nests, changed, ?_⟩
          have differ : Text.Rekeyed old new
              (if (keyAt key token).literal || (keyAt key token).innerLiteral.isSome
                then token.content else token.nestedText)
              (if (keyAt key token).literal || (keyAt key token).innerLiteral.isSome
                then other.content else other.nestedText) := by
            split
            · exact swapped.rekeyed.content
            · exact swapped.rekeyed.nestedText
          have written := ((InStep.refl agrees).emit_rekeyed swapped.oldKeyword swapped.newKeyword
            (ready.nestedColumn (keyAt key token) token) differ).withKey
              (some (keyAfter (keyAt key token) token
                (ready.nestedColumn (keyAt key token) token)))
          rw [Option.map_some, OpenKey.behind_zero] at written
          exact written

/-- Lines that leave the same are placed alike. -/
theorem place {left : Tracker} (agrees : SameClosed left.record left.record)
    (isList : left.kind = .taskList) (noPlay : left.nesting.play = none)
    (noTask : other.role ≠ token.role → left.nesting.task = none) :
    InStep 0 (SettledClosed old new) (left.place token) (left.place other) := by
  have inStep : InStep 0 SameClosed left left := .refl agrees
  have misplaced (reason otherReason : AmbiguityReason) :=
    inStep.pushMisplaced_rekeyed swapped.oldKeyword swapped.newKeyword swapped.rekeyed isList noPlay
      reason otherReason
  unfold Tracker.place
  rcases swapped.roles with ⟨same, role | role⟩ | ⟨role, otherRole, _⟩
  · rw [same, role]
    exact inStep.pushListItem_rekeyed swapped.oldKeyword swapped.newKeyword swapped.rekeyed isList
  · rw [same, role]
    dsimp only
    unfold pushTaskAttribute
    split
    · exact inStep.emitTaskKey_rekeyed swapped.oldKeyword swapped.newKeyword swapped.rekeyed
    · exact misplaced _ _
  · rw [role, otherRole]
    dsimp only
    have closed : left.nesting.task = none := noTask (by simp [role, otherRole])
    unfold pushTaskAttribute pushPlayAttribute
    rw [if_neg (by simp [closed]), if_pos (by simp [noPlay])]
    exact misplaced _ _

/-- A line that no shell block has absorbed is written by both, and they stay in step. -/
theorem pushOutsideShell {ready : Tracker} (agrees : SameClosed ready.record ready.record)
    (isList : ready.kind = .taskList) (noPlay : ready.nesting.play = none)
    (mode : ready.mode = tracker.mode) (task : ready.nesting.task = tracker.nesting.task)
    (elsewhere : ready.takeNested? token = none → tracker.mode = .incremental →
      token.dashed = false → tracker.nesting.task ≠ some token.indent) :
    InStep 0 (SettledClosed old new) (ready.pushOutsideShell token)
      (ready.pushOutsideShell other) := by
  obtain ⟨notBlank, otherNotBlank⟩ := swapped.notBlank
  rcases swapped.takeNested? agrees with ⟨apart, otherApart⟩ | ⟨taken, changed, takes, otherTakes,
    taking⟩
  · obtain ⟨sameLeft, noTask⟩ := swapped.leave noPlay mode task (elsewhere apart)
    obtain ⟨_, play, kind⟩ := ready.leave_state token
    have left : SameClosed (ready.leave token).record (ready.leave token).record :=
      ((InStep.refl agrees).leave (.refl token.line)).record
    rw [pushOutsideShell_of_apart notBlank apart,
      pushOutsideShell_of_apart otherNotBlank otherApart, sameLeft]
    exact swapped.place left (kind.trans isList) (play.trans noPlay) noTask
  · rw [pushOutsideShell_of_taken notBlank takes,
      pushOutsideShell_of_taken otherNotBlank otherTakes]
    exact taking

/-- **The line.** Unless it stands at the list marker of the open task, the line is written by both,
or gathered by both, and they stay in step. -/
theorem push (agrees : Either SameClosed SameOpen tracker.record tracker.record)
    (isList : tracker.kind = .taskList) (noPlay : tracker.nesting.play = none)
    (elsewhere : ¬ tracker.AtMarker token) :
    InStep 0 (Either (SettledClosed old new) (Unsettled old new)) (tracker.push token)
      (tracker.push other) := by
  obtain ⟨notBlank, otherNotBlank⟩ := swapped.notBlank
  have inStep : InStep 0 (Either SameClosed SameOpen) tracker tracker := .refl agrees
  have outside (apart : tracker.extendShell? token = none)
      (otherApart : tracker.extendShell? other = none) :
      InStep 0 (Either (SettledClosed old new) (Unsettled old new)) (tracker.push token)
        (tracker.push other) := by
    obtain ⟨_, mode, _⟩ := tracker.flushShell_state
    obtain ⟨play, kind⟩ := tracker.flushShell_play_kind
    have flushed := (inStep.flushShell keeps_same).record
    have pushed := swapped.pushOutsideShell flushed (kind.trans isList) (play.trans noPlay) mode
      tracker.task_flushShell fun takes incremental notDashed isMarker =>
        elsewhere ⟨incremental, notDashed, apart, takes, isMarker⟩
    rw [push_of_outside apart, push_of_outside otherApart]
    exact { pushed with record := .inl pushed.record }
  cases shell : tracker.nesting.shell with
  | none => exact outside (extendShell?_of_none shell) (extendShell?_of_none shell)
  | some block =>
      have accepted := swapped.accepts block
      cases accepts : block.accepts token with
      | false =>
          exact outside (extendShell?_of_rejects shell notBlank accepts)
            (extendShell?_of_rejects shell otherNotBlank (accepted.trans accepts))
      | true =>
          rw [push_of_absorbed (extendShell?_of_accepts shell notBlank accepts),
            push_of_absorbed (extendShell?_of_accepts shell otherNotBlank (accepted.trans accepts))]
          have same : Record.Same tracker.record tracker.record := agrees.elim (·.1) (·.1)
          refine { inStep with record := .inr (.inr ?_) }
          exact
            { blocks := ⟨_, _, rfl, rfl, block.rekeyed_push swapped.indent_eq
                swapped.rekeyed.content⟩
              reopened := rfl
              taskAction := rfl
              sound := ⟨same.sound.single, same.sound.within⟩
              length := rfl
              around := fun _ _ => ⟨rfl, rfl⟩ }

/-- At the list marker of the open task the keyword of tasks belongs to that task, and the other one
starts a task of its own. -/
theorem startsTask_of_atMarker (agrees : Either SameClosed SameOpen tracker.record tracker.record)
    (isList : tracker.kind = .taskList) (noPlay : tracker.nesting.play = none)
    (atMarker : tracker.AtMarker token) (differs : other.role ≠ token.role) :
    tracker.startsTask token = false ∧ tracker.startsTask other = true := by
  obtain ⟨incremental, notDashed, outside, apart, isOpen⟩ := atMarker
  obtain ⟨_, mode, _⟩ := tracker.flushShell_state
  obtain ⟨play, kind⟩ := tracker.flushShell_play_kind
  have task := tracker.task_flushShell
  have flushed := ((InStep.refl agrees).flushShell keeps_same).record
  have otherApart : tracker.flushShell.takeNested? other = none := by
    rcases swapped.takeNested? flushed with ⟨_, otherApart⟩ | ⟨taken, _, takes, _⟩
    · exact otherApart
    · rw [apart] at takes
      cases takes
  have otherOutside : tracker.extendShell? other = none := by
    cases shell : tracker.nesting.shell with
    | none => exact extendShell?_of_none shell
    | some block =>
        obtain ⟨notBlank, otherNotBlank⟩ := swapped.notBlank
        refine extendShell?_of_rejects shell otherNotBlank ((swapped.accepts block).trans ?_)
        by_contra accepts
        rw [extendShell?_of_accepts shell notBlank (by simpa using accepts)] at outside
        cases outside
  rcases swapped.roles with ⟨same, _⟩ | ⟨role, otherRole, _⟩
  · exact (differs same).elim
  · obtain ⟨_, samePlay, sameKind⟩ := tracker.flushShell.leave_state other
    have stays : (tracker.flushShell.leave token).nesting.task = some token.indent := by
      rw [task_leave_of_ordinary (mode.trans incremental) (by simp [role]) (by simp [role])
        (by simp [role, Role.isHeader]), leavesTask, task, isOpen]
      simp [role, bindsToTask]
    have leaves : (tracker.flushShell.leave other).nesting.task = none := by
      rw [task_leave_of_ordinary (mode.trans incremental) (by simp [otherRole])
        (by simp [otherRole]) (by simp [otherRole, Role.isHeader]), leavesTask, task, isOpen,
        swapped.indent_eq]
      simp [otherRole, bindsToTask]
    unfold startsTask placingStartsTask
    dsimp only
    rw [stays, leaves, role, otherRole, otherOutside, otherApart, samePlay, play, noPlay,
      atTaskPosition_of_list (sameKind.trans (kind.trans isList))]
    simp

end Swapped

/-- Outside a play a keyword of plays and tasks has the role that one of tasks has in its place,
unless it stands in an open task, no deeper than the list marker of the task. -/
theorem roles_swapped {first second : LineFacts} {old new : Text} {around : Surroundings}
    (facts : first.Rekeyed second old new) (playOpen : around.playOpen = false)
    (onTask : keywordScope? old = some .task) (isShared : keywordScope? new = some .shared) :
    Role.ofFacts second around = Role.ofFacts first around ∧
        (Role.ofFacts first around = .listItem ∨ Role.ofFacts first around = .taskAttribute) ∨
      Role.ofFacts first around = .taskAttribute ∧ Role.ofFacts second around = .playAttribute ∧
        first.dashed = false ∧ around.useIndent ∧
        ∃ task, around.taskIndent = some task ∧ first.indent ≤ task := by
  cases dashed : first.dashed with
  | true =>
      obtain ⟨noHosts, noName⟩ := Catalog.ne_header_of_keywordScope? onTask (by decide)
      obtain ⟨otherNoHosts, otherNoName⟩ := Catalog.ne_header_of_keywordScope? isShared (by decide)
      have item : Role.ofFacts first around = .listItem :=
        Role.ofFacts_dashed facts.firstOrdinary facts.firstKey dashed noHosts noName
          (facts.noFragment dashed).1
      have otherItem : Role.ofFacts second around = .listItem :=
        Role.ofFacts_dashed facts.secondOrdinary facts.secondKey (facts.dashed.trans dashed)
          otherNoHosts otherNoName (facts.noFragment dashed).2
      exact .inl ⟨otherItem.trans item.symm, .inl item⟩
  | false =>
      have role : Role.ofFacts first around = .taskAttribute :=
        Role.ofFacts_taskKeyword facts.firstOrdinary facts.firstKey dashed onTask
      have otherRole : Role.ofFacts second around =
          if Rule.isTaskScope around second.indent then .taskAttribute else .playAttribute :=
        Role.ofFacts_sharedKeyword facts.secondOrdinary facts.secondKey
          (facts.dashed.trans dashed) isShared
      rw [facts.indent] at otherRole
      split at otherRole
      · exact .inl ⟨otherRole.trans role.symm, .inr role⟩
      · next elsewhere =>
          unfold Rule.isTaskScope at elsewhere
          rw [playOpen] at elsewhere
          split at elsewhere
          · next column isOpen =>
              simp only [Bool.or_eq_true, Bool.not_eq_true', decide_eq_true_eq, not_or,
                Bool.not_eq_false, Nat.not_lt] at elsewhere
              exact .inr ⟨role, otherRole, rfl, elsewhere.1, column, isOpen, elsewhere.2⟩
          · exact (elsewhere rfl).elim

/-- Outside a play a keyword of plays and tasks stands in the place of one of tasks. -/
theorem swapped_classify {tracker : Tracker} {line other : Line} {old new : Text}
    (noPlay : tracker.nesting.play = none)
    (onTask : keywordScope? old = some .task) (isShared : keywordScope? new = some .shared)
    (rekeyed : line.Rekeyed other old new) (previousOpensBlock : Bool) :
    tracker.Swapped old new
      (.classify line (tracker.surroundings previousOpensBlock false))
      (.classify other (tracker.surroundings previousOpensBlock false)) := by
  have oldKeyword : keywordScope? old ≠ none := by rw [onTask]; nofun
  have newKeyword : keywordScope? new ≠ none := by rw [isShared]; nofun
  have facts := rekeyed.facts oldKeyword newKeyword
  have playOpen : (tracker.surroundings previousOpensBlock false).playOpen = false :=
    Option.isSome_eq_false_iff.mpr (Option.isNone_iff_eq_none.mpr noPlay)
  have roles := roles_swapped facts playOpen onTask isShared
  have useIndent : (tracker.surroundings previousOpensBlock false).useIndent ↔
      tracker.mode = .incremental := decide_eq_true_iff
  rw [useIndent] at roles
  exact ⟨oldKeyword, newKeyword, facts, roles⟩

/-! ## Finished documents -/

theorem dropTrailingEmpty_append_cons {line : Text} (notEmpty : line ≠ [])
    (above below : List Text) :
    dropTrailingEmpty (above ++ line :: below) = above ++ line :: dropTrailingEmpty below := by
  have kept := dropTrailingEmpty_cons notEmpty below
  unfold dropTrailingEmpty at kept ⊢
  rw [List.reverse_append, List.dropWhile_append]
  split
  · next noLine =>
      rw [List.isEmpty_iff.mp noLine] at kept
      cases kept
  · rw [List.reverse_append, List.reverse_reverse, kept]

/-- The finished lines differ in the key only. -/
theorem exists_finishedLines_rekeyed {first second : Tracker} {old new : Text} {position : Nat}
    (oldKeyword : keywordScope? old ≠ none) (newKeyword : keywordScope? new ≠ none)
    (differs : DiffersAt old new position first.flushShell.out second.flushShell.out)
    (mode : second.mode = first.mode) :
    ∃ position, DiffersAt old new position first.finishedLines second.finishedLines := by
  obtain ⟨above, line, other, below, firstOut, secondOut, rekeyed, rfl⟩ := differs
  obtain ⟨notEmpty, otherNotEmpty, noComment, otherNoComment, marker⟩ :=
    rekeyed.starts oldKeyword newKeyword
  have sameMarker : startsWithMarker (above ++ other :: dropTrailingEmpty below) =
      startsWithMarker (above ++ line :: dropTrailingEmpty below) := by
    unfold startsWithMarker
    dsimp only
    rw [List.find?_append, List.find?_append,
      List.find?_cons_of_pos (by simp [otherNotEmpty, otherNoComment]),
      List.find?_cons_of_pos (by simp [notEmpty, noComment])]
    cases above.find? _ with
    | none => exact marker
    | some _ => rfl
  unfold finishedLines
  dsimp only
  rw [firstOut, secondOut, dropTrailingEmpty_append_cons notEmpty,
    dropTrailingEmpty_append_cons otherNotEmpty, mode, sameMarker]
  split
  · exact ⟨_, "---".toList :: above, line, other, dropTrailingEmpty below, rfl, rfl, rekeyed, rfl⟩
  · exact ⟨_, above, line, other, dropTrailingEmpty below, rfl, rfl, rekeyed, rfl⟩

end Tracker

namespace Rebuild

/-- The line stands at the column of the list marker of the task that is open when it is read. -/
def StandsAtMarker (mode : RebuildMode) (text : Text) (line : Line) : Prop :=
  ∃ before token later, tokens mode .taskList text = before ++ token :: later ∧ token.line = line ∧
    (trackerAfter mode .taskList before).AtMarker token

theorem tokensFrom_append (state : State) (lines others : List (Line × Bool)) :
    tokensFrom state (lines ++ others) =
      tokensFrom state lines ++ tokensFrom (run state lines) others := by
  induction lines generalizing state with
  | nil => rfl
  | cons line rest ih =>
      rw [List.cons_append, tokensFrom, tokensFrom, List.cons_append]
      exact congrArg (_ :: ·) (ih _)

/-- Without a key `hosts` no list item owns one. -/
theorem ownsHosts_eq_replicate {lines : List Line}
    (noHosts : ∀ line ∈ lines, ¬ (LineFacts.ofLine line).hasKey "hosts") :
    ownsHosts lines = List.replicate lines.length false := by
  have length : (ownsHosts lines).length = lines.length := by
    rw [ownsHosts, length_hostsBelow, List.length_map]
  rw [← length]
  refine List.eq_replicate_of_mem (Tidy.ownsHosts_eq_false fun line member => ?_)
  intro other same _
  have key : (LineFacts.ofLine other).hasKey "hosts" = (LineFacts.ofLine line).hasKey "hosts" := by
    rw [LineFacts.ofLine_of_content (show other.content = line.content by
      rw [Line.content, Line.content, same])]
    rfl
  rw [key]
  exact Bool.eq_false_iff.mpr (noHosts line member)

/-- In a list of tasks without `hosts` keys no play is open at any line. -/
theorem play_eq_none_of_noHosts {mode : RebuildMode} {text : Text} {before later : List LineToken}
    {token : LineToken}
    (noHosts : ∀ line ∈ Line.ofText text, ¬ (LineFacts.ofLine line).hasKey "hosts")
    (split : tokens mode .taskList text = before ++ token :: later) :
    (trackerAfter mode .taskList before).nesting.play = none := by
  have isList := trackerAfter_kind mode .taskList text _ _ split
  obtain ⟨part, _, frame, _⟩ := (outlined_run (.inr ⟨rfl, noHosts⟩) _ _ split).laid
  rcases frame.home with ⟨isPlaybook, _⟩ | ⟨_, noPlay, _⟩
  · rw [isList] at isPlaybook
    cases isPlaybook
  · exact noPlay

/-- A line with a keyword of plays and tasks in place of its key has no key `hosts` either. -/
theorem noHosts_of_rekeyed {above below : List Line} {line other : Line} {old new : Text}
    (facts : (LineFacts.ofLine line).Rekeyed (.ofLine other) old new)
    (isShared : keywordScope? new = some .shared)
    (noHosts : ∀ shown ∈ above ++ line :: below, ¬ (LineFacts.ofLine shown).hasKey "hosts") :
    ∀ shown ∈ above ++ other :: below, ¬ (LineFacts.ofLine shown).hasKey "hosts" := by
  obtain ⟨noneAbove, fromHere⟩ := List.forall_mem_append.mp noHosts
  refine List.forall_mem_append.mpr ⟨noneAbove, List.forall_mem_cons.mpr
    ⟨fun hosts => ?_, (List.forall_mem_cons.mp fromHere).2⟩⟩
  rw [LineFacts.hasKey, facts.secondKey, decide_eq_true_eq, Option.some.injEq] at hosts
  exact (Catalog.ne_header_of_keywordScope? isShared (by decide)).1 hosts

/-- A line that is neither blank nor a comment is remembered as the last one. -/
theorem State.previousOpensBlock_push {state : State} {token : LineToken}
    (notBlank : token.role ≠ .blank) (notComment : token.role ≠ .comment) :
    (state.push token).previousOpensBlock = token.opensBlock :=
  if_neg (by simp [notBlank, notComment])

/-- After either line the same is remembered. -/
theorem previousOpensBlock_swapped {tracker : Tracker} {old new : Text} {token other : LineToken}
    (swapped : tracker.Swapped old new token other) (state : State) :
    (state.push other).previousOpensBlock = (state.push token).previousOpensBlock := by
  rw [State.previousOpensBlock_push swapped.notBlank.2 swapped.notComment.2,
    State.previousOpensBlock_push swapped.notBlank.1 swapped.notComment.1]
  exact swapped.rekeyed.opensBlock

/-- The parts of a run around one line of a text without `hosts` keys. -/
theorem run_around (mode : RebuildMode) (kind : FileKind) {text : Text} {above below : List Line}
    {line : Line} (isText : Line.ofText text = above ++ line :: below)
    (noHosts : ∀ line ∈ Line.ofText text, ¬ (LineFacts.ofLine line).hasKey "hosts") :
    let unowned := fun lines : List Line => lines.zip (List.replicate lines.length false)
    let state := run (.start mode kind) (unowned above)
    tokens mode kind text = tokensFrom (.start mode kind) (unowned above) ++
        state.classify line false :: tokensFrom (state.step line false) (unowned below) ∧
      trackerAfter mode kind (tokens mode kind text) =
        (run (state.step line false) (unowned below)).tracker := by
  intro unowned state
  have zipped : (Line.ofText text).zip (ownsHosts (Line.ofText text)) =
      unowned above ++ (line, false) :: unowned below := by
    rw [ownsHosts_eq_replicate noHosts, isText, List.length_append,
      ← List.replicate_append_replicate, List.zip_append (List.length_replicate ..).symm]
    rfl
  constructor
  · change tokensFrom (.start mode kind) ((Line.ofText text).zip (ownsHosts (Line.ofText text))) = _
    rw [zipped, tokensFrom_append]
    rfl
  · have ran : trackerAfter mode kind (tokens mode kind text) =
        (run (.start mode kind) ((Line.ofText text).zip (ownsHosts (Line.ofText text)))).tracker :=
      (run_tracker (.start mode kind) _).symm
    rw [ran, zipped, run, List.foldl_append]
    rfl

end Rebuild

open Rebuild
open Tracker.Record (Either SameClosed SameOpen SettledClosed Unsettled keeps_same keeps_rekeyed)

/-- **Keywords of plays and tasks outside plays.** When in a list of tasks without `hosts` keys the
keyword of one line, which is valid on tasks only, is replaced by one that is valid on plays as
well, the rebuilt documents differ in that key only, unless the line stands at the column of the
list marker of its task. -/
theorem rebuild_sharedKeyword {mode : RebuildMode} {first second : Text} {above below : List Line}
    {line other : Line} {old new : Text} (firstLines : Line.ofText first = above ++ line :: below)
    (secondLines : Line.ofText second = above ++ other :: below)
    (rekeyed : line.Rekeyed other old new) (onTask : keywordScope? old = some .task)
    (isShared : keywordScope? new = some .shared)
    (noHosts : ∀ line ∈ Line.ofText first, ¬ (LineFacts.ofLine line).hasKey "hosts")
    (elsewhere : ¬ StandsAtMarker mode first line) :
    ∃ position, DiffersAt old new position
      (Text.pieces '\n' (rebuild mode .taskList first).text)
      (Text.pieces '\n' (rebuild mode .taskList second).text) := by
  have oldKeyword : keywordScope? old ≠ none := by rw [onTask]; nofun
  have newKeyword : keywordScope? new ≠ none := by rw [isShared]; nofun
  have otherNoHosts : ∀ line ∈ Line.ofText second, ¬ (LineFacts.ofLine line).hasKey "hosts" := by
    rw [secondLines]
    rw [firstLines] at noHosts
    exact noHosts_of_rekeyed (rekeyed.facts oldKeyword newKeyword) isShared noHosts
  obtain ⟨split, firstRun⟩ := run_around mode .taskList firstLines noHosts
  obtain ⟨_, secondRun⟩ := run_around mode .taskList secondLines otherNoHosts
  generalize isState : run (.start mode .taskList) (above.zip (List.replicate above.length false)) =
    state at split firstRun secondRun
  have isTracker : state.tracker = trackerAfter mode .taskList (tokensFrom (.start mode .taskList)
      (above.zip (List.replicate above.length false))) := by
    rw [← isState]
    exact run_tracker _ _
  have isList : state.tracker.kind = .taskList :=
    isTracker ▸ trackerAfter_kind mode .taskList first _ _ split
  have noPlay : state.tracker.nesting.play = none :=
    isTracker ▸ play_eq_none_of_noHosts noHosts split
  -- Above the line both runs do the same, at the line they part, and below it they stay in step.
  have start : State.InStep 0 (Either SameClosed SameOpen) (.start mode .taskList)
      (.start mode .taskList) :=
    { tracker := .refl (.inl ⟨⟨rfl, rfl, rfl, rfl, nofun, nofun⟩, rfl, rfl⟩)
      previousOpensBlock := rfl }
  have same (lines : List Line) : List.Forall₂ (fun line other => ∀ token : LineToken,
      token.line = line → other = token.line) lines lines :=
    List.forall₂_same.mpr fun _ _ _ isLine => isLine.symm
  have agrees := run_inStep keeps_same start (List.replicate above.length false) (same above)
    (fun _ _ _ _ _ => trivial) (fun _ _ _ _ _ _ => .inl rfl)
  rw [isState] at agrees
  have swapped := Tracker.swapped_classify noPlay onTask isShared rekeyed state.previousOpensBlock
  have parted : State.InStep 0 (Either (SettledClosed old new) (Unsettled old new))
      (state.step line false) (state.step other false) :=
    { tracker := swapped.push agrees.tracker.record isList noPlay fun atMarker =>
        elsewhere ⟨_, _, _, split, rfl, by rwa [← isTracker]⟩
      previousOpensBlock := previousOpensBlock_swapped swapped state }
  have keeps := keeps_rekeyed oldKeyword newKeyword
  have ran := run_inStep keeps parted (List.replicate below.length false) (same below)
    (fun _ _ _ _ _ => trivial) (fun _ _ _ _ _ _ => .inl rfl)
  have inStep := ran.tracker
  rw [← firstRun, ← secondRun] at inStep
  obtain ⟨position, differs, _⟩ := (inStep.flushShell keeps).record.1.differs
  obtain ⟨place, finished⟩ :=
    Tracker.exists_finishedLines_rekeyed oldKeyword newKeyword differs inStep.mode
  refine ⟨place, ?_⟩
  rw [pieces_rebuild, pieces_rebuild]
  exact finished.append [[]]

/-- Behind a script, between the columns of the list marker and of the keys of its task, the other
keyword is a keyword of the task as well. -/
theorem rebuild_sharedKeyword_script :
    let first := "- name: a\n  shell: |\n    ls\n register: x\n- name: b\n  ping:\n".toList
    let second := "- name: a\n  shell: |\n    ls\n become: x\n- name: b\n  ping:\n".toList
    let above : List Line :=
      [⟨1, "- name: a".toList⟩, ⟨2, "  shell: |".toList⟩, ⟨3, "    ls".toList⟩]
    let below : List Line := [⟨5, "- name: b".toList⟩, ⟨6, "  ping:".toList⟩]
    Line.ofText first = above ++ ⟨4, " register: x".toList⟩ :: below ∧
    Line.ofText second = above ++ ⟨4, " become: x".toList⟩ :: below ∧
    Line.Rekeyed ⟨4, " register: x".toList⟩ ⟨4, " become: x".toList⟩ "register".toList
      "become".toList ∧
    keywordScope? "register".toList = some .task ∧ keywordScope? "become".toList = some .shared ∧
    (∀ line ∈ Line.ofText first, ¬ (LineFacts.ofLine line).hasKey "hosts") ∧
    ¬ StandsAtMarker .incremental first ⟨4, " register: x".toList⟩ ∧
    ∃ position, DiffersAt "register".toList "become".toList position
      (Text.pieces '\n' (rebuild .incremental .taskList first).text)
      (Text.pieces '\n' (rebuild .incremental .taskList second).text) := by
  intro first second above below
  have firstLines : Line.ofText first = above ++ ⟨4, " register: x".toList⟩ :: below := by
    decide +kernel
  have secondLines : Line.ofText second = above ++ ⟨4, " become: x".toList⟩ :: below := by
    decide +kernel
  have rekeyed : Line.Rekeyed ⟨4, " register: x".toList⟩ ⟨4, " become: x".toList⟩
      "register".toList "become".toList :=
    ⟨rfl, by decide +kernel, [' '], [], ": x".toList, by decide, .inl rfl, by decide, by decide⟩
  have onTask : keywordScope? "register".toList = some .task := by decide +kernel
  have isShared : keywordScope? "become".toList = some .shared := by decide +kernel
  have noHosts : ∀ line ∈ Line.ofText first, ¬ (LineFacts.ofLine line).hasKey "hosts" := by
    decide +kernel
  have elsewhere : ¬ StandsAtMarker .incremental first ⟨4, " register: x".toList⟩ := by
    have noneAt : ∀ before token later, tokens .incremental .taskList first =
        before ++ token :: later → token.line = ⟨4, " register: x".toList⟩ →
          ¬ (trackerAfter .incremental .taskList before).AtMarker token :=
      forall_split (by decide +kernel)
    rintro ⟨before, token, later, split, isLine, atMarker⟩
    exact noneAt before token later split isLine atMarker
  exact ⟨firstLines, secondLines, rekeyed, onTask, isShared, noHosts, elsewhere,
    rebuild_sharedKeyword firstLines secondLines rekeyed onTask isShared noHosts elsewhere⟩

/-- At the column of the list marker of its task a keyword of plays and tasks starts a task of its
own, where one of tasks does not. -/
theorem rebuild_sharedKeyword_marker :
    let first := "- name: a\n  ping:\nregister: x\n".toList
    let second := "- name: a\n  ping:\nbecome: x\n".toList
    let above : List Line := [⟨1, "- name: a".toList⟩, ⟨2, "  ping:".toList⟩]
    Line.ofText first = above ++ [⟨3, "register: x".toList⟩] ∧
    Line.ofText second = above ++ [⟨3, "become: x".toList⟩] ∧
    Line.Rekeyed ⟨3, "register: x".toList⟩ ⟨3, "become: x".toList⟩ "register".toList
      "become".toList ∧
    keywordScope? "register".toList = some .task ∧ keywordScope? "become".toList = some .shared ∧
    (∀ line ∈ Line.ofText first, ¬ (LineFacts.ofLine line).hasKey "hosts") ∧
    ¬ ∃ position, DiffersAt "register".toList "become".toList position
      (Text.pieces '\n' (rebuild .incremental .taskList first).text)
      (Text.pieces '\n' (rebuild .incremental .taskList second).text) := by
  refine ⟨by decide +kernel, by decide +kernel, ⟨rfl, by decide +kernel, [], [], ": x".toList,
    by decide, .inl rfl, by decide, by decide⟩, by decide +kernel, by decide +kernel,
    by decide +kernel, ?_⟩
  rintro ⟨position, differs⟩
  have isFirst : (Text.pieces '\n' (rebuild .incremental .taskList
      "- name: a\n  ping:\nregister: x\n".toList).text)[3]? = some "    register: x".toList := by
    decide +kernel
  have isSecond : (Text.pieces '\n' (rebuild .incremental .taskList
      "- name: a\n  ping:\nbecome: x\n".toList).text)[3]? = some "  - become: x".toList := by
    decide +kernel
  rcases differs.getElem? 3 with same | ⟨line, other, isLine, isOther, rekeyed⟩
  · rw [isFirst, isSecond] at same
    exact absurd same (by decide)
  · obtain rfl := Option.some.inj (isFirst.symm.trans isLine)
    obtain rfl := Option.some.inj (isSecond.symm.trans isOther)
    exact absurd (rekeyed.lead_eq (by decide +kernel) (by decide +kernel)) (by decide)

end PlaybookRepair
