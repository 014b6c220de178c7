import PlaybookRepair.Proofs.Tracker.InStep

/-!
# Lines that keep trackers in step

Trackers in step place a line by its role alike (`InStep.place`), take it alike for a part of the
open key's value (`InStep.takeNested?`), leave the same sections by its column (`InStep.leave`) and
absorb it in their open blocks alike, so that they are in step after it (`InStep.push`).
-/

namespace PlaybookRepair.Tracker

variable {margin : Nat} {token : LineToken} {line : Line} {alike : LineToken → Line → Prop}
  {copied : LineToken → Prop} {related resting gathering : Record → Record → Prop}
  {first second : Tracker}

/-! ## Lines by their role -/

/-- Whether a line that starts a task has its list marker. -/
def bringsMarker (token : LineToken) : Bool :=
  match token.role with
  | .taskHeader _ => token.dashed
  | .listItem => true
  | _ => false

/-- A comment may be copied as it stands, and what continues a line where there is none. -/
def MayCopy (tracker : Tracker) (token : LineToken) : Prop :=
  token.role = .comment ∨
    (token.role = .listItem ∨ token.role = .continuation) ∧ tracker.lastKeyColumn = none

instance (tracker : Tracker) (token : LineToken) : Decidable (tracker.MayCopy token) :=
  inferInstanceAs (Decidable (_ ∨ _))

/-- The column of a task that the line starts, if it does, is not cut at the left edge. -/
def Uncut (margin : Nat) (token : LineToken) (starts : Bool) : Prop :=
  starts → margin = 0 ∨ indentStep ≤ token.indent

section Roles

variable (keeps : Keeps margin alike copied resting gathering)
  (inStep : InStep margin resting first second) (isAlike : alike token line)
include keeps inStep isAlike

/-- A line that belongs into a task goes into the open one, or one is opened for it. -/
theorem InStep.ensureTaskKey (uncut : Uncut margin token first.nesting.task.isNone) :
    InStep margin resting ((first.ensureTask token.indent).emitTaskKey token)
      ((second.ensureTask (token.moved line).indent).emitTaskKey (token.moved line)) := by
  rw [LineToken.indent_moved (keeps.behind isAlike)]
  exact (inStep.ensureTask keeps uncut).emitTaskKey keeps isAlike

theorem InStep.pushDocumentMarker :
    InStep margin resting (first.pushDocumentMarker token)
      (second.pushDocumentMarker (token.moved line)) := by
  have closed := (inStep.reset.withLastKeyColumn none).withPendingDash false
  have content : (token.moved line).content = token.content := (keeps.behind isAlike).content
  unfold Tracker.pushDocumentMarker
  dsimp only
  by_cases incremental : first.mode = .incremental
  · rw [if_pos incremental, if_pos (inStep.mode.trans incremental), content]
    exact closed.emitLine keeps token.content
  · rw [if_neg incremental, if_neg (inStep.mode ▸ incremental)]
    exact closed

theorem InStep.pushPlayHeader :
    InStep margin resting (first.pushPlayHeader token)
      (second.pushPlayHeader (token.moved line)) := by
  have opened := (inStep.reset.withPlay token.indent).withPendingDash false
  rw [← LineToken.indent_moved (keeps.behind isAlike)] at opened
  exact opened.emitHeader keeps isAlike playColumn

theorem InStep.pushTaskHeader
    (uncut : token.dashed = false → margin = 0 ∨ indentStep ≤ token.indent) :
    InStep margin resting (first.pushTaskHeader token)
      (second.pushTaskHeader (token.moved line)) := by
  have column : (if (token.moved line).dashed then (token.moved line).indent
      else (token.moved line).indent - indentStep) =
        (if token.dashed then token.indent else token.indent - indentStep) + margin := by
    rw [LineToken.indent_moved (keeps.behind isAlike),
      show (token.moved line).dashed = token.dashed from rfl]
    split
    · rfl
    · next noMarker =>
        have := uncut (by simpa using noMarker)
        omega
  unfold Tracker.pushTaskHeader
  dsimp only
  rw [column]
  exact (((inStep.closeTaskAndKey.ensureTaskSection keeps _).openTask keeps _).withPendingDash
    false).emitHeader keeps isAlike taskColumn

theorem InStep.pushMisplaced (reason : AmbiguityReason)
    (uncut : Uncut margin token
      (first.nesting.task.isNone && first.nesting.play.isNone && first.atTaskPosition)) :
    InStep margin resting (first.pushMisplaced token reason)
      (second.pushMisplaced (token.moved line) reason) := by
  have noted := inStep.note keeps isAlike reason
  unfold Tracker.pushMisplaced
  dsimp only
  rw [noted.canHoldTask, show (second.note (token.moved line) reason).nesting.play.isSome =
    first.nesting.play.isSome by rw [noted.play]; exact Option.isSome_map]
  rw [show (first.note token reason).nesting.play.isSome = first.nesting.play.isSome from rfl]
  split
  · exact (noted.closeTasks.withPendingDash false).emitKey keeps isAlike playKeyColumn
  · next noPlay =>
      split
      · next canHold =>
          refine noted.ensureTaskKey keeps isAlike fun noTask => uncut ?_
          have position := startsTask_eq_of_canHoldTask canHold
          rw [show first.nesting.play.isNone = true by simpa using noPlay, Bool.and_true]
          exact position.trans noTask
      · exact noted.emitKey keeps isAlike 0

theorem InStep.pushPlayAttribute
    (uncut : Uncut margin token
      (first.nesting.task.isNone && first.nesting.play.isNone && first.atTaskPosition)) :
    InStep margin resting (first.pushPlayAttribute token)
      (second.pushPlayAttribute (token.moved line)) := by
  unfold Tracker.pushPlayAttribute
  rw [inStep.play, Option.isNone_map]
  split
  · exact inStep.pushMisplaced keeps isAlike _ uncut
  · have closed := inStep.closeTasks.withPendingDash false
    dsimp only
    rw [show (token.moved line).key = token.key from rfl,
      show (token.moved line).value = token.value from rfl,
      show (token.moved line).opensBlock = token.opensBlock from rfl]
    split
    · have opened := ((closed.emit keeps playKeyColumn token.keyedText).withLastKeyColumn
        (some playKeyColumn)).withSection token.indent
      rw [← LineToken.indent_moved (keeps.behind isAlike)] at opened
      exact opened
    · exact closed.emitKey keeps isAlike playKeyColumn

theorem InStep.pushTaskAttribute
    (uncut : Uncut margin token
      (first.nesting.task.isNone && first.nesting.play.isNone && first.atTaskPosition)) :
    InStep margin resting (first.pushTaskAttribute token)
      (second.pushTaskAttribute (token.moved line)) := by
  unfold Tracker.pushTaskAttribute
  rw [inStep.task, Option.isSome_map]
  split
  · exact inStep.emitTaskKey keeps isAlike
  · exact inStep.pushMisplaced keeps isAlike _ uncut

theorem InStep.pushKeyValue
    (uncut : Uncut margin token
      (first.nesting.task.isNone && first.atActionPosition && first.atTaskPosition)) :
    InStep margin resting (first.pushKeyValue token) (second.pushKeyValue (token.moved line)) := by
  unfold Tracker.pushKeyValue
  rw [inStep.task, Option.isSome_map, inStep.atActionPosition, inStep.canHoldTask, inStep.play,
    Option.isSome_map]
  split
  · exact inStep.emitTaskKey keeps isAlike
  · next noTask =>
      have isNone : first.nesting.task.isNone = true := by simpa using noTask
      split
      · next position =>
          rw [canHoldTask_of_noTask isNone] at position
          refine inStep.ensureTaskKey keeps isAlike fun _ => uncut ?_
          rw [isNone, Bool.true_and]
          exact position
      · exact inStep.emitKey keeps isAlike _

variable (hasContent : token.content ≠ [])
include hasContent

theorem InStep.openShell {block other : ShellBlock}
    (blocks : block = .ofModule token ∧ other = .ofModule (token.moved line) ∨
      block = .ofFragment token ∧ other = .ofFragment (token.moved line))
    (uncut : Uncut margin token (first.nesting.task.isNone && first.atTaskPosition)) :
    InStep margin gathering (first.openShell token block)
      (second.openShell (token.moved line) other) := by
  unfold Tracker.openShell
  dsimp only
  rw [inStep.closeKey.canHoldTask]
  split
  · next canHold =>
      rw [LineToken.indent_moved (keeps.behind isAlike)]
      have opened : InStep margin resting (first.closeKey.ensureTask token.indent)
          (second.closeKey.ensureTask (token.indent + margin)) := by
        refine inStep.closeKey.ensureTask keeps fun noTask => uncut ?_
        have noTaskFirst : first.nesting.task.isNone = true := noTask
        rw [← noTaskFirst]
        exact startsTask_eq_of_canHoldTask canHold
      exact { opened with
        record := keeps.opens isAlike hasContent blocks opened.record }
  · have noted := inStep.closeKey.note keeps isAlike .shellOutsideTask
    exact { noted with record := keeps.opens isAlike hasContent blocks noted.record }

theorem InStep.pushModule
    (uncut : Uncut margin token (first.nesting.task.isNone && first.atTaskPosition)) :
    InStep margin (Record.Either resting gathering)
      (first.pushModule token) (second.pushModule (token.moved line)) := by
  unfold Tracker.pushModule
  rw [show (token.moved line).key = token.key from rfl, inStep.canHoldTask]
  split
  · have opened := inStep.openShell keeps isAlike hasContent (.inl ⟨rfl, rfl⟩) uncut
    exact { opened with record := .inr opened.record }
  · split
    · next canHold =>
        have placed := (inStep.ensureTaskKey keeps isAlike fun noTask =>
          uncut ((startsTask_eq_of_canHoldTask canHold).trans noTask)).withTaskAction keeps
            (some .other) (.inr rfl)
        exact { placed with record := .inl placed.record }
    · have placed := inStep.pushMisplaced keeps isAlike .moduleOutsideTask fun starts => uncut (by
        rw [Bool.and_right_comm] at starts
        exact (Bool.and_eq_true_iff.mp starts).1)
      exact { placed with record := .inl placed.record }

theorem InStep.openFragment
    (uncut : Uncut margin token
      ((first.nesting.task.isNone || first.openAction = some .other) && first.atTaskPosition)) :
    InStep margin gathering (first.openFragment token)
      (second.openFragment (token.moved line)) := by
  have forgotten := inStep.withTaskAction keeps none (.inl rfl)
  have actions : ActionsAlike first.openAction second.openAction := by
    unfold Tracker.openAction
    rw [inStep.task, Option.isSome_map]
    split
    · exact keeps.actions inStep.record
    · exact .none
  unfold Tracker.openFragment
  dsimp only
  generalize firstAction : first.openAction = action at actions uncut ⊢
  generalize secondAction : second.openAction = otherAction at actions ⊢
  cases actions with
  | none =>
      refine forgotten.openShell keeps isAlike hasContent (.inr ⟨rfl, rfl⟩) fun starts => uncut ?_
      rw [decide_eq_false (by simp), Bool.or_false]
      exact starts
  | other =>
      refine (forgotten.note keeps isAlike .shellAfterAction).closeTask.openShell keeps isAlike
        hasContent (.inr ⟨rfl, rfl⟩) fun starts => uncut ?_
      have position : first.atTaskPosition = true := (Bool.and_eq_true_iff.mp starts).2
      simp [position]
  | shell block other placement =>
      have open' {tracker : Tracker} {action : TaskAction}
          (remembered : tracker.openAction = some action) : tracker.taskAction = some action := by
        rw [← remembered, Tracker.openAction, if_pos (task_isSome_of_openAction remembered)]
      exact { inStep with
        openKey := rfl
        record := keeps.rejoins isAlike hasContent (open' firstAction) (open' secondAction)
          inStep.record }

theorem InStep.pushContinuation (isCopied : first.lastKeyColumn = none → copied token) :
    InStep margin resting (first.pushContinuation token)
      (second.pushContinuation (token.moved line)) := by
  unfold Tracker.pushContinuation
  rw [inStep.lastKeyColumn, token.nestedText_moved (keeps.behind isAlike).content]
  split
  · exact inStep.emit keeps _ _
  · next nothing => exact inStep.copyLine keeps isAlike hasContent (isCopied nothing)

theorem InStep.pushUnplaced (isCopied : first.lastKeyColumn = none → copied token) :
    InStep margin resting (first.pushUnplaced token)
      (second.pushUnplaced (token.moved line)) := by
  unfold Tracker.pushUnplaced
  rw [inStep.lastKeyColumn]
  split
  · exact inStep.pushContinuation keeps isAlike hasContent isCopied
  · exact (inStep.note keeps isAlike _).pushContinuation keeps isAlike hasContent isCopied

theorem InStep.pushListItem (isCopied : first.lastKeyColumn = none → copied token) :
    InStep margin resting (first.pushListItem token)
      (second.pushListItem (token.moved line)) := by
  have behind := keeps.behind isAlike
  have newItem :
      (second.atTaskPosition && (second.nesting.task.isNone || second.mode = .canonical)) =
        (first.atTaskPosition && (first.nesting.task.isNone || first.mode = .canonical)) := by
    rw [inStep.atTaskPosition, inStep.task, Option.isNone_map, inStep.mode]
  unfold Tracker.pushListItem
  rw [newItem, token.nestedText_moved behind.content, LineToken.indent_moved behind]
  split
  · have placed := ((inStep.closeTaskAndKey.withPendingDash false).ensureTaskSection keeps
      token.indent).emit keeps taskColumn token.nestedText
    dsimp only
    rw [show (token.moved line).key = token.key from rfl]
    split
    · exact (placed.openTask keeps _).afterKey behind taskKeyColumn
    · exact placed.withLastKeyColumn (some taskColumn)
  · exact (inStep.note keeps isAlike _).pushContinuation keeps isAlike hasContent isCopied

/-- Placing a line by its role keeps trackers in step, unless the column of a task is cut. -/
theorem InStep.place (isCopied : first.MayCopy token → copied token)
    (uncut : bringsMarker token = false → Uncut margin token (first.placingStartsTask token)) :
    InStep margin (Record.Either resting gathering)
      (first.place token) (second.place (token.moved line)) := by
  have resting {left right : Tracker} (inStep : InStep margin resting left right) :
      InStep margin (Record.Either resting gathering) left
        right :=
    { inStep with record := .inl inStep.record }
  unfold Tracker.placingStartsTask bringsMarker at uncut
  unfold Tracker.place
  rw [show (token.moved line).role = token.role from rfl]
  cases role : token.role with
  | blank => exact resting inStep
  | comment => exact resting (inStep.copyLine keeps isAlike hasContent (isCopied (.inl role)))
  | documentMarker => exact resting (inStep.pushDocumentMarker keeps isAlike)
  | playHeader => exact resting (inStep.pushPlayHeader keeps isAlike)
  | taskHeader dashed =>
      rw [role] at uncut
      exact resting (inStep.pushTaskHeader keeps isAlike fun noMarker => uncut noMarker rfl)
  | playAttribute =>
      rw [role] at uncut
      exact resting (inStep.pushPlayAttribute keeps isAlike (uncut rfl))
  | taskAttribute =>
      rw [role] at uncut
      exact resting (inStep.pushTaskAttribute keeps isAlike (uncut rfl))
  | moduleInvocation =>
      rw [role] at uncut
      exact inStep.pushModule keeps isAlike hasContent (uncut rfl)
  | shellFragment family =>
      rw [role] at uncut
      have opened := inStep.openFragment keeps isAlike hasContent (uncut rfl)
      exact { opened with record := .inr opened.record }
  | keyValue =>
      rw [role] at uncut
      exact resting (inStep.pushKeyValue keeps isAlike (uncut rfl))
  | listItem =>
      exact resting (inStep.pushListItem keeps isAlike hasContent fun nothing =>
        isCopied (.inr ⟨.inl role, nothing⟩))
  | continuation =>
      exact resting (inStep.pushUnplaced keeps isAlike hasContent fun nothing =>
        isCopied (.inr ⟨.inr role, nothing⟩))

end Roles

/-! ## Values below a key -/

section

variable (behind : Line.Behind margin token.line line) (key : OpenKey)
include behind

theorem keyAt_behind : keyAt (key.behind margin) (token.moved line) =
    (keyAt key token).behind margin := by
  unfold keyAt OpenKey.behind
  rw [LineToken.indent_moved behind]
  cases key.innerLiteral with
  | none => rfl
  | some inner =>
      have same : (decide ((inner.behind margin).sourceIndent < token.indent + margin)) =
          decide (inner.sourceIndent < token.indent) :=
        decide_eq_decide.mpr Nat.add_lt_add_iff_right
      simp only [Option.map_some, Option.filter_some, same]
      split <;> rfl

theorem keyAfter_behind (column : Nat) :
    keyAfter (key.behind margin) (token.moved line) column =
      (keyAfter key token column).behind margin := by
  unfold keyAfter
  rw [LineToken.indent_moved behind, show (token.moved line).key = token.key from rfl,
    show (token.moved line).value = token.value from rfl,
    show (token.moved line).dashed = token.dashed from rfl,
    show (key.behind margin).literal = key.literal from rfl,
    show (key.behind margin).innerLiteral.isNone = key.innerLiteral.isNone from Option.isNone_map]
  split
  · simp only [OpenKey.behind, InnerLiteral.behind, Option.map_some, Nat.add_right_comm]
  · rfl

theorem InStep.nestsUnder (inStep : InStep margin related first second) :
    second.nestsUnder (key.behind margin) (token.moved line) = first.nestsUnder key token := by
  have deeper : (decide ((key.behind margin).sourceIndent < token.indent + margin)) =
      decide (key.sourceIndent < token.indent) :=
    decide_eq_decide.mpr Nat.add_lt_add_iff_right
  have beside : (decide (token.indent + margin = (key.behind margin).sourceIndent)) =
      decide (token.indent = key.sourceIndent) :=
    decide_eq_decide.mpr Nat.add_right_cancel_iff
  unfold Tracker.nestsUnder
  simp only [LineToken.indent_moved behind, deeper, beside, inStep.mode]
  rw [show (key.behind margin).innerLiteral.isSome = key.innerLiteral.isSome from
    Option.isSome_map]
  rfl

theorem InStep.nestedColumn (inStep : InStep margin related first second) :
    second.nestedColumn (key.behind margin) (token.moved line) = first.nestedColumn key token := by
  unfold Tracker.nestedColumn
  rw [LineToken.indent_moved behind, inStep.mode]
  cases first.mode with
  | incremental =>
      change key.depth + (token.indent + margin - (key.sourceIndent + margin)) = _
      rw [Nat.add_sub_add_right]
  | canonical => simp [OpenKey.behind, InnerLiteral.behind, Function.comp_def]

end

theorem lastKeyColumn_leave (tracker : Tracker) (token : LineToken) :
    (tracker.leave token).lastKeyColumn = tracker.lastKeyColumn := by
  have leftKey : (tracker.leaveKey token).lastKeyColumn = tracker.lastKeyColumn := by
    unfold leaveKey
    split <;> rfl
  rw [← leftKey]
  unfold leave
  dsimp only
  generalize tracker.leaveKey token = left
  split
  · unfold closeByDedent
    split
    · rfl
    · dsimp only
      split <;> split <;> rfl
  · rfl

/-- Both trackers leave the same by the column of a line. -/
theorem InStep.leave (inStep : InStep margin related first second)
    (behind : Line.Behind margin token.line line) :
    InStep margin related (first.leave token) (second.leave (token.moved line)) := by
  have left : InStep margin related (first.leaveKey token)
      (second.leaveKey (token.moved line)) := by
    unfold Tracker.leaveKey
    rw [show (token.moved line).role = token.role from rfl]
    split
    · exact inStep
    · exact inStep.closeKey
  have leavesTask {left right : Tracker} (inStep : InStep margin related left right) :
      right.leavesTask (token.moved line) = left.leavesTask token := by
    unfold Tracker.leavesTask
    rw [inStep.task, LineToken.indent_moved behind]
    cases left.nesting.task with
    | none => rfl
    | some task => simp [show (token.moved line).role = token.role from rfl]
  have leavesSection {left right : Tracker} (inStep : InStep margin related left right) :
      right.leavesSection (token.moved line) = left.leavesSection token := by
    unfold Tracker.leavesSection
    rw [inStep.play, Option.isSome_map, inStep.task, Option.isNone_map, inStep.taskSection,
      LineToken.indent_moved behind]
    cases left.nesting.taskSection with
    | none => rfl
    | some column =>
        simp [show (token.moved line).role = token.role from rfl,
          show (token.moved line).dashed = token.dashed from rfl]
  unfold Tracker.leave
  dsimp only
  generalize first.leaveKey token = first at left ⊢
  generalize second.leaveKey (token.moved line) = second at left ⊢
  rw [left.mode]
  split
  · unfold Tracker.closeByDedent
    rw [show (token.moved line).role = token.role from rfl, leavesTask left]
    split
    · exact left
    · dsimp only
      have closed : InStep margin related
          (if first.leavesTask token then first.closeTask else first)
          (if first.leavesTask token then second.closeTask else second) := by
        split
        · exact left.closeTask
        · exact left
      generalize (if first.leavesTask token then first.closeTask else first) = left at closed ⊢
      generalize (if first.leavesTask token then second.closeTask else second) = right at closed ⊢
      rw [leavesSection closed]
      split
      · exact closed.closeSection
      · exact closed
  · exact left

section Lines

variable (keeps : Keeps margin alike copied resting gathering)
include keeps

/-- Both lines are part of the open key's value, or neither is. -/
theorem InStep.takeNested? (inStep : InStep margin resting first second)
    (isAlike : alike token line) :
    (first.takeNested? token = none ∧ second.takeNested? (token.moved line) = none) ∨
      ∃ taken other, first.takeNested? token = some taken ∧
        second.takeNested? (token.moved line) = some other ∧ InStep margin resting taken other := by
  have behind := keeps.behind isAlike
  have isOpen := inStep.openKey
  generalize firstOpen : first.nesting.openKey = firstKey at isOpen
  cases firstKey with
  | none => exact .inl ⟨takeNested?_of_closed firstOpen, takeNested?_of_closed isOpen⟩
  | some key =>
      rw [Option.map_some] at isOpen
      have nests := inStep.nestsUnder behind (keyAt key token)
      rw [← keyAt_behind behind] at nests
      by_cases nested : first.nestsUnder (keyAt key token) token
      · right
        have taken := takeNested?_of_nests firstOpen nested
        have other := takeNested?_of_nests isOpen (nests.trans nested)
        refine ⟨_, _, taken, other, ?_⟩
        rw [keyAt_behind behind, inStep.nestedColumn behind, keyAfter_behind behind,
          token.nestedText_moved behind.content, show (token.moved line).content = token.content
            from behind.content, show ((keyAt key token).behind margin).innerLiteral.isSome =
              (keyAt key token).innerLiteral.isSome from Option.isSome_map]
        exact (inStep.emit keeps _ _).withKey _
      · have apart : first.nestsUnder (keyAt key token) token = false := by simpa using nested
        exact .inl ⟨takeNested?_of_apart firstOpen apart,
          takeNested?_of_apart isOpen (nests.trans apart)⟩

/-- The open block is written by both. -/
theorem InStep.closeShell (inStep : InStep margin gathering first second)
    {block other : ShellBlock} (firstShell : first.nesting.shell = some block)
    (secondShell : second.nesting.shell = some other) :
    InStep margin resting (first.closeShell block) (second.closeShell other) := by
  obtain ⟨_, _, isBlock, isOther, blocks⟩ := keeps.blocks inStep.record
  obtain rfl := Option.some.inj (firstShell.symm.trans isBlock)
  obtain rfl := Option.some.inj (secondShell.symm.trans isOther)
  obtain ⟨reopened, length⟩ := keeps.place inStep.record
  have innermost : second.nesting.keyColumn = first.nesting.keyColumn := by
    simp only [Nesting.keyColumn, Nesting.innermost, inStep.play, inStep.taskSection, inStep.task,
      Option.isSome_map]
  have depth : second.shellPlacement = first.shellPlacement := by
    have sameReopened : second.reopened = first.reopened := reopened
    have sameLength : second.out.length = first.out.length := length
    simp only [Tracker.shellPlacement, sameReopened, sameLength, innermost, inStep.task,
      inStep.pendingDash, Option.isSome_map]
  have closed (tracker : Tracker) (block : ShellBlock) :
      (tracker.closeShell block).mode = tracker.mode ∧
        (tracker.closeShell block).kind = tracker.kind ∧
        (tracker.closeShell block).nesting =
          { tracker.nesting with
            shell := none
            openKey := if block.isBare then some
                { sourceIndent := block.startIndent
                  depth := tracker.shellPlacement.depth
                  literal := false }
              else tracker.nesting.openKey } ∧
        (tracker.closeShell block).lastKeyColumn = some tracker.shellPlacement.depth ∧
        (tracker.closeShell block).pendingDash =
          (tracker.pendingDash && (tracker.reopened.isSome || tracker.nesting.task.isNone)) := by
    unfold Tracker.closeShell
    dsimp only
    split <;> exact ⟨rfl, rfl, rfl, rfl, rfl⟩
  obtain ⟨firstMode, firstKind, firstNesting, firstColumn, firstDash⟩ := closed first block
  obtain ⟨secondMode, secondKind, secondNesting, secondColumn, secondDash⟩ := closed second other
  have sameReopened : second.reopened = first.reopened := reopened
  refine
    { mode := by rw [firstMode, secondMode, inStep.mode]
      kind := by rw [firstKind, secondKind, inStep.kind]
      play := by rw [firstNesting, secondNesting]; exact inStep.play
      taskSection := by rw [firstNesting, secondNesting]; exact inStep.taskSection
      task := by rw [firstNesting, secondNesting]; exact inStep.task
      openKey := ?_
      lastKeyColumn := by rw [firstColumn, secondColumn, depth]
      pendingDash := by
        rw [firstDash, secondDash, inStep.pendingDash, sameReopened, inStep.task, Option.isNone_map]
      record := ?_ }
  · rw [firstNesting, secondNesting, depth]
    dsimp only
    rw [blocks.isBare, blocks.startIndent]
    split
    · rfl
    · exact inStep.openKey
  · have placement : second.record.placement second.nesting.keyColumn
        (second.nesting.task.isSome && second.pendingDash) =
          first.record.placement first.nesting.keyColumn
            (first.nesting.task.isSome && first.pendingDash) := depth
    rw [record_closeShell, record_closeShell, placement, inStep.mode, inStep.task,
      Option.isSome_map]
    exact keeps.closes _ _ _ _ firstShell secondShell inStep.record

theorem InStep.pushBlank (inStep : InStep margin resting first second) :
    InStep margin resting first.pushBlank second.pushBlank := by
  have inLiteral : (second.nesting.openKey.any fun key => key.literal || key.innerLiteral.isSome) =
      first.nesting.openKey.any fun key => key.literal || key.innerLiteral.isSome := by
    rw [inStep.openKey]
    cases first.nesting.openKey with
    | none => rfl
    | some key => simp [OpenKey.behind]
  have lastLine : second.out.getLast?.any (!·.isEmpty) = first.out.getLast?.any (!·.isEmpty) :=
    keeps.lastLine inStep.record
  unfold Tracker.pushBlank
  dsimp only
  rw [inLiteral, lastLine, inStep.mode]
  split
  · exact inStep
  · split
    · exact inStep.emitLine keeps []
    · exact inStep

section

variable (isAlike : alike token line)
  (hasContent : token.role ≠ .blank → token.content ≠ [])
include isAlike hasContent

/-- A line that no shell block has absorbed keeps trackers in step. -/
theorem InStep.pushOutsideShell (inStep : InStep margin resting first second)
    (isCopied : first.MayCopy token → copied token)
    (uncut : bringsMarker token = false → Uncut margin token
      (token.role ≠ .blank && (first.takeNested? token).isNone &&
        (first.leave token).placingStartsTask token)) :
    InStep margin (Record.Either resting gathering)
      (first.pushOutsideShell token) (second.pushOutsideShell (token.moved line)) := by
  by_cases isBlank : token.role = .blank
  · rw [Tracker.pushOutsideShell, Tracker.pushOutsideShell, if_pos isBlank,
      if_pos (show (token.moved line).role = .blank from isBlank)]
    have pushed := inStep.pushBlank keeps
    exact { pushed with record := .inl pushed.record }
  · have notBlank : (token.moved line).role ≠ .blank := isBlank
    rcases inStep.takeNested? keeps isAlike with ⟨apart, otherApart⟩ | ⟨taken, other, takes,
      otherTakes, taking⟩
    · rw [pushOutsideShell_of_apart isBlank apart, pushOutsideShell_of_apart notBlank otherApart]
      have lastColumn : (first.leave token).lastKeyColumn = first.lastKeyColumn :=
        first.lastKeyColumn_leave token
      refine (inStep.leave (keeps.behind isAlike)).place keeps isAlike (hasContent isBlank)
        (fun mayCopy => isCopied (by rwa [MayCopy, lastColumn] at mayCopy))
        fun noMarker starts => uncut noMarker ?_
      simp [isBlank, apart, starts]
    · rw [pushOutsideShell_of_taken isBlank takes, pushOutsideShell_of_taken notBlank otherTakes]
      exact { taking with record := .inl taking.record }

/-- **One line.** A line keeps trackers in step, unless the column of a task that it starts without
a list marker is cut at the left edge of the document. -/
theorem InStep.push
    (inStep : InStep margin (Record.Either resting gathering)
      first second)
    (isCopied : first.flushShell.MayCopy token → copied token)
    (uncut : first.startsTask token → bringsMarker token = false →
      margin = 0 ∨ indentStep ≤ token.indent) :
    InStep margin (Record.Either resting gathering)
      (first.push token) (second.push (token.moved line)) := by
  rcases inStep.record with isResting | isGathering
  · have shells : first.nesting.shell = none ∧ second.nesting.shell = none :=
      keeps.closed isResting
    rw [push_of_noShell shells.1, push_of_noShell shells.2]
    rw [flushShell_of_none shells.1] at isCopied
    refine InStep.pushOutsideShell keeps isAlike hasContent { inStep with record := isResting }
      isCopied fun noMarker starts => uncut ?_ noMarker
    rw [Tracker.startsTask, extendShell?_of_none shells.1, flushShell_of_none shells.1]
    exact starts
  · obtain ⟨block, other, firstShell, secondShell, blocks⟩ := keeps.blocks isGathering
    have firstOpen : first.nesting.shell = some block := firstShell
    have secondOpen : second.nesting.shell = some other := secondShell
    by_cases isBlank : token.role = .blank
    · have alsoBlank : (token.moved line).role = .blank := isBlank
      rw [push_of_absorbed (extendShell?_of_blank firstOpen isBlank),
        push_of_absorbed (extendShell?_of_blank secondOpen alsoBlank)]
      exact { inStep with record := .inr (keeps.waits firstShell secondShell isGathering) }
    · have notBlank : (token.moved line).role ≠ .blank := isBlank
      have accepted := blocks.accepts (keeps.behind isAlike)
      cases accepts : block.accepts token with
      | true =>
          rw [push_of_absorbed (extendShell?_of_accepts firstOpen isBlank accepts),
            push_of_absorbed (extendShell?_of_accepts secondOpen notBlank (accepted.trans accepts))]
          exact { inStep with
            record := .inr (keeps.absorbs isAlike (hasContent isBlank) firstShell secondShell
              isGathering) }
      | false =>
          have outside := extendShell?_of_rejects firstOpen isBlank accepts
          rw [push_of_outside outside,
            push_of_outside (extendShell?_of_rejects secondOpen notBlank (accepted.trans accepts))]
          have closed := InStep.closeShell keeps { inStep with record := isGathering } firstOpen
            secondOpen
          rw [← flushShell_of_some firstOpen, ← flushShell_of_some secondOpen] at closed
          refine closed.pushOutsideShell keeps isAlike hasContent isCopied fun noMarker starts =>
            uncut ?_ noMarker
          rw [Tracker.startsTask, outside]
          exact starts

end

/-- At the end of a document both write what they have gathered. -/
theorem InStep.flushShell
    (inStep : InStep margin (Record.Either resting gathering)
      first second) :
    InStep margin resting first.flushShell second.flushShell := by
  rcases inStep.record with isResting | isGathering
  · have shells : first.nesting.shell = none ∧ second.nesting.shell = none :=
      keeps.closed isResting
    rw [flushShell_of_none shells.1, flushShell_of_none shells.2]
    exact { inStep with record := isResting }
  · obtain ⟨block, other, firstShell, secondShell, blocks⟩ := keeps.blocks isGathering
    have firstOpen : first.nesting.shell = some block := firstShell
    have secondOpen : second.nesting.shell = some other := secondShell
    rw [flushShell_of_some firstOpen, flushShell_of_some secondOpen]
    exact InStep.closeShell keeps { inStep with record := isGathering } firstOpen secondOpen

end Lines

/-- A line has the same role for trackers in step. -/
theorem InStep.role (inStep : InStep margin related first second) (facts : LineFacts)
    (behind : Line.Behind margin facts.line line) (previousOpensBlock itemHasHosts : Bool) :
    Role.ofFacts { facts with line } (second.surroundings previousOpensBlock itemHasHosts) =
      Role.ofFacts facts (first.surroundings previousOpensBlock itemHasHosts) := by
  have surrounded : second.surroundings previousOpensBlock itemHasHosts =
      { first.surroundings previousOpensBlock itemHasHosts with
        taskIndent := (first.surroundings previousOpensBlock itemHasHosts).taskIndent.map
          (· + margin) } := by
    simp [surroundings, inStep.kind, inStep.play, inStep.taskSection, inStep.task, inStep.mode]
  rw [surrounded]
  exact Role.ofFacts_behind behind _

end PlaybookRepair.Tracker
