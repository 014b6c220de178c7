import PlaybookRepair.Proofs.Tracker.Push

/-!
# Where tasks start

A task is opened by its header, by a list item where a task may start, or by a line that belongs
into a task where none is open; lines of a script after a module start one as well.
`Tracker.startsTask` tells from the state and the line whether this happens. A line that starts a
task leaves a new one open, in which no shell block is remembered; any other line leaves the task
that was open or none (`taskStep_push`).
-/

namespace PlaybookRepair.Tracker

/-- Whether a line that is placed by its role starts a task. -/
def placingStartsTask (tracker : Tracker) (token : LineToken) : Bool :=
  let noTask := tracker.nesting.task.isNone
  match token.role with
  | .taskHeader _ => true
  | .listItem =>
    tracker.atTaskPosition && (noTask || tracker.mode = .canonical) && token.key.isSome
  | .shellFragment _ => (noTask || tracker.openAction = some .other) && tracker.atTaskPosition
  | .moduleInvocation => noTask && tracker.atTaskPosition
  | .keyValue => noTask && tracker.atActionPosition && tracker.atTaskPosition
  | .playAttribute | .taskAttribute =>
    noTask && tracker.nesting.play.isNone && tracker.atTaskPosition
  | _ => false

/-- Whether a line starts a task: no shell block absorbs it, it is not part of an open value, and it
is placed as the first line of a task. -/
def startsTask (tracker : Tracker) (token : LineToken) : Bool :=
  let closed := tracker.flushShell
  (tracker.extendShell? token).isNone && token.role ≠ .blank &&
    (closed.takeNested? token).isNone && (closed.leave token).placingStartsTask token

/-- A task has been opened since, and no shell block is remembered in it. -/
structure Started (before after : Tracker) : Prop where
  task : after.nesting.task.isSome
  forgets : ∀ block placement, after.taskAction ≠ some (.shell block placement)
  reopened : after.reopened = before.reopened

/-- What may have become of the open task: a new one has started, or it is still open unless none
is. -/
def TaskStep (before after : Tracker) (starts : Bool) : Prop :=
  if starts then Started before after
  else after.nesting.task = before.nesting.task ∨ after.nesting.task = none

variable {before tracker : Tracker} {token : LineToken}

theorem taskStep_of_started {after : Tracker} {starts : Bool} (started : Started before after)
    (isStart : starts = true) : TaskStep before after starts := by
  rw [TaskStep, if_pos isStart]
  exact started

theorem taskStep_of_kept {after : Tracker} {starts : Bool}
    (kept : after.nesting.task = before.nesting.task ∨ after.nesting.task = none)
    (noStart : starts = false) : TaskStep before after starts := by
  rw [TaskStep, if_neg (by simp [noStart])]
  exact kept

/-- What leaves the task and the place of the open block alone may come before. -/
theorem TaskStep.after_silent {silent after : Tracker} {starts : Bool}
    (step : TaskStep silent after starts) (task : silent.nesting.task = before.nesting.task)
    (reopened : silent.reopened = before.reopened) : TaskStep before after starts := by
  unfold TaskStep at step ⊢
  split
  · next isStart =>
      rw [if_pos isStart] at step
      exact { step with reopened := step.reopened.trans reopened }
  · next noStart =>
      rw [if_neg noStart, task] at step
      exact step

/-! ## Steps that leave the task alone -/

theorem task_emitTaskLine (tracker : Tracker) (text : Text) :
    (tracker.emitTaskLine text).nesting = tracker.nesting := by
  unfold emitTaskLine
  split <;> rfl

theorem task_emitTaskKey (tracker : Tracker) (token : LineToken) :
    (tracker.emitTaskKey token).nesting.task = tracker.nesting.task := by
  change (tracker.closeKey.emitTaskLine token.keyedText).nesting.task = _
  rw [task_emitTaskLine]
  rfl

theorem Started.afterKey (started : Started before tracker) (token : LineToken) (column : Nat) :
    Started before (tracker.afterKey token column) :=
  { started with }

theorem Started.emitTaskKey (started : Started before tracker) (token : LineToken) :
    Started before (tracker.emitTaskKey token) := by
  refine Started.afterKey ?_ token taskKeyColumn
  unfold emitTaskLine
  split <;> exact { started with }

theorem started_openTask (reopened : tracker.reopened = before.reopened) (sourceIndent : Nat) :
    Started before (tracker.openTask sourceIndent) where
  task := rfl
  forgets := nofun
  reopened := reopened

theorem reopened_ensureTaskSection (tracker : Tracker) (sourceIndent : Nat) :
    (tracker.ensureTaskSection sourceIndent).reopened = tracker.reopened := by
  unfold ensureTaskSection
  split <;> rfl

theorem started_ensureTask (noTask : tracker.nesting.task.isNone)
    (reopened : tracker.reopened = before.reopened) (keyIndent : Nat) :
    Started before (tracker.ensureTask keyIndent) := by
  rw [ensureTask, if_neg (by simpa using noTask)]
  have opened : Started before ((tracker.ensureTaskSection (keyIndent - indentStep)).openTask
      (keyIndent - indentStep)) :=
    started_openTask ((reopened_ensureTaskSection _ _).trans reopened) _
  exact { opened with }

theorem ensureTask_of_task (task : tracker.nesting.task.isSome) (keyIndent : Nat) :
    tracker.ensureTask keyIndent = tracker := by
  rw [ensureTask, if_pos task]

theorem canHoldTask_of_noTask (noTask : tracker.nesting.task.isNone) :
    tracker.canHoldTask = tracker.atTaskPosition := by
  rw [canHoldTask, Option.isNone_iff_eq_none.mp noTask]
  rfl

/-- Whether a task may be started by a line that goes into the open task if there is one. -/
theorem startsTask_eq_of_canHoldTask (canHold : tracker.canHoldTask) :
    (tracker.nesting.task.isNone && tracker.atTaskPosition) = tracker.nesting.task.isNone := by
  cases noTask : tracker.nesting.task.isNone with
  | true =>
      rw [canHoldTask_of_noTask noTask] at canHold
      rw [canHold]
      rfl
  | false => rfl

theorem startsTask_eq_of_not_canHoldTask (cannotHold : ¬ tracker.canHoldTask) :
    (tracker.nesting.task.isNone && tracker.atTaskPosition) = false := by
  cases noTask : tracker.nesting.task.isNone with
  | true =>
      rw [canHoldTask_of_noTask noTask] at cannotHold
      simpa using cannotHold
  | false => rfl

/-- A line that belongs into a task goes into the open one, or a new one is opened for it. -/
theorem taskStep_ensureTask_emitTaskKey (tracker : Tracker) (token : LineToken) (keyIndent : Nat) :
    TaskStep tracker ((tracker.ensureTask keyIndent).emitTaskKey token)
      tracker.nesting.task.isNone := by
  cases noTask : tracker.nesting.task.isNone with
  | true =>
      exact taskStep_of_started ((started_ensureTask noTask rfl keyIndent).emitTaskKey token) rfl
  | false =>
      rw [ensureTask_of_task (by simpa using noTask)]
      exact taskStep_of_kept (.inl (task_emitTaskKey tracker token)) rfl

/-! ## Lines by their role -/

theorem taskStep_pushTaskHeader (tracker : Tracker) (token : LineToken) :
    Started tracker (tracker.pushTaskHeader token) := by
  unfold pushTaskHeader
  dsimp only
  generalize (if token.dashed then token.indent else token.indent - indentStep) = sourceIndent
  have reopened : ((tracker.withNesting { tracker.nesting with
      task := none, openKey := none }).ensureTaskSection sourceIndent).reopened =
        tracker.reopened :=
    reopened_ensureTaskSection _ sourceIndent
  have opened : Started tracker _ := started_openTask reopened sourceIndent
  exact { opened with }

theorem taskStep_pushMisplaced (tracker : Tracker) (token : LineToken) (reason : AmbiguityReason) :
    TaskStep tracker (tracker.pushMisplaced token reason)
      (tracker.nesting.task.isNone && tracker.nesting.play.isNone && tracker.atTaskPosition) := by
  have noted := taskStep_ensureTask_emitTaskKey (tracker.note token reason) token token.indent
  unfold pushMisplaced
  dsimp only
  rw [show (tracker.note token reason).nesting = tracker.nesting from rfl,
    show (tracker.note token reason).canHoldTask = tracker.canHoldTask from rfl]
  split
  · next inPlay =>
      have isSome : tracker.nesting.play.isNone = false := by simpa using inPlay
      rw [isSome, Bool.and_false, Bool.false_and]
      exact taskStep_of_kept (.inr rfl) rfl
  · next noPlay =>
      have isNone : tracker.nesting.play.isNone = true := by simpa using noPlay
      rw [isNone, Bool.and_true]
      split
      · next canHold =>
          rw [startsTask_eq_of_canHoldTask canHold]
          exact noted.after_silent rfl rfl
      · next cannotHold =>
          rw [startsTask_eq_of_not_canHoldTask cannotHold]
          exact taskStep_of_kept (.inl rfl) rfl

theorem taskStep_pushPlayAttribute (tracker : Tracker) (token : LineToken) :
    TaskStep tracker (tracker.pushPlayAttribute token)
      (tracker.nesting.task.isNone && tracker.nesting.play.isNone && tracker.atTaskPosition) := by
  unfold pushPlayAttribute
  split
  · exact tracker.taskStep_pushMisplaced token _
  · next inPlay =>
      rw [Bool.eq_false_iff.mpr inPlay, Bool.and_false, Bool.false_and]
      dsimp only
      split <;> exact taskStep_of_kept (.inr rfl) rfl

theorem taskStep_pushTaskAttribute (tracker : Tracker) (token : LineToken) :
    TaskStep tracker (tracker.pushTaskAttribute token)
      (tracker.nesting.task.isNone && tracker.nesting.play.isNone && tracker.atTaskPosition) := by
  unfold pushTaskAttribute
  split
  · next task =>
      have isSome : tracker.nesting.task.isNone = false := by simpa using task
      rw [isSome]
      exact taskStep_of_kept (.inl (task_emitTaskKey tracker token)) rfl
  · exact tracker.taskStep_pushMisplaced token _

/-- A shell block is opened in the open task, or a task is opened for it where one may start. -/
theorem taskStep_openShell (tracker : Tracker) (token : LineToken) (block : ShellBlock) :
    TaskStep tracker (tracker.openShell token block)
      (tracker.nesting.task.isNone && tracker.atTaskPosition) := by
  unfold openShell
  dsimp only
  rw [show tracker.closeKey.canHoldTask = tracker.canHoldTask from rfl]
  split
  · next canHold =>
      rw [startsTask_eq_of_canHoldTask canHold]
      cases noTask : tracker.nesting.task.isNone with
      | true =>
          have stillNone : tracker.closeKey.nesting.task.isNone := noTask
          have same : tracker.closeKey.reopened = tracker.reopened := rfl
          have started := started_ensureTask stillNone same token.indent
          exact taskStep_of_started { started with } rfl
      | false =>
          have task : tracker.closeKey.nesting.task.isSome := by
            change tracker.nesting.task.isSome
            simpa using noTask
          rw [ensureTask_of_task task]
          exact taskStep_of_kept (.inl rfl) rfl
  · next cannotHold =>
      rw [startsTask_eq_of_not_canHoldTask cannotHold]
      exact taskStep_of_kept (.inl rfl) rfl

theorem taskStep_pushModule (tracker : Tracker) (token : LineToken) :
    TaskStep tracker (tracker.pushModule token)
      (tracker.nesting.task.isNone && tracker.atTaskPosition) := by
  unfold pushModule
  split
  · exact tracker.taskStep_openShell token _
  · split
    · next canHold =>
        rw [startsTask_eq_of_canHoldTask canHold]
        have step := tracker.taskStep_ensureTask_emitTaskKey token token.indent
        unfold TaskStep at step ⊢
        split
        · next isStart =>
            rw [if_pos isStart] at step
            exact { step with forgets := nofun }
        · next noStart =>
            rw [if_neg noStart] at step
            exact step
    · next cannotHold =>
        have step := tracker.taskStep_pushMisplaced token .moduleOutsideTask
        rw [Bool.and_right_comm, startsTask_eq_of_not_canHoldTask cannotHold] at step
        rw [startsTask_eq_of_not_canHoldTask cannotHold]
        exact step

theorem taskStep_openFragment (tracker : Tracker) (token : LineToken) :
    TaskStep tracker (tracker.openFragment token)
      ((tracker.nesting.task.isNone || tracker.openAction = some .other) &&
        tracker.atTaskPosition) := by
  unfold openFragment
  dsimp only
  cases action : tracker.openAction with
  | none =>
      have step := ({ tracker with taskAction := none } : Tracker).taskStep_openShell token
        (.ofFragment token)
      change TaskStep _ _ (tracker.nesting.task.isNone && tracker.atTaskPosition) at step
      simp only [reduceCtorEq, decide_false, Bool.or_false]
      exact step.after_silent rfl rfl
  | some action' =>
      have task := task_isSome_of_openAction action
      cases action' with
      | shell block placement =>
          refine taskStep_of_kept (.inl rfl) ?_
          simp [Option.isSome_iff_ne_none.mp task]
      | other =>
          have step := (({ tracker with taskAction := none } : Tracker).note token
            .shellAfterAction).closeTask.taskStep_openShell token (.ofFragment token)
          change TaskStep _ _ tracker.atTaskPosition at step
          simp only [decide_true, Bool.or_true, Bool.true_and]
          unfold TaskStep at step ⊢
          split
          · next isStart =>
              rw [if_pos isStart] at step
              exact { step with }
          · next noStart =>
              rw [if_neg noStart] at step
              exact .inr (step.elim id id)

theorem taskStep_pushKeyValue (tracker : Tracker) (token : LineToken) :
    TaskStep tracker (tracker.pushKeyValue token)
      (tracker.nesting.task.isNone && tracker.atActionPosition && tracker.atTaskPosition) := by
  unfold pushKeyValue
  split
  · next task =>
      have isSome : tracker.nesting.task.isNone = false := by simpa using task
      rw [isSome]
      exact taskStep_of_kept (.inl (task_emitTaskKey tracker token)) rfl
  · next noTask =>
      have isNone : tracker.nesting.task.isNone = true := by simpa using noTask
      rw [canHoldTask_of_noTask isNone, isNone, Bool.true_and]
      split
      · next position =>
          have step := tracker.taskStep_ensureTask_emitTaskKey token token.indent
          rw [isNone] at step
          rw [position]
          exact step
      · next elsewhere => exact taskStep_of_kept (.inl rfl) (by simpa using elsewhere)

theorem taskStep_pushContinuation (tracker : Tracker) (token : LineToken) :
    (tracker.pushContinuation token).nesting.task = tracker.nesting.task := by
  unfold pushContinuation copyLine
  split
  · rfl
  · split <;> rfl

theorem taskStep_pushListItem (tracker : Tracker) (token : LineToken) :
    TaskStep tracker (tracker.pushListItem token)
      (tracker.atTaskPosition &&
        (tracker.nesting.task.isNone || tracker.mode = .canonical) && token.key.isSome) := by
  unfold pushListItem
  split
  · next newItem =>
      rw [newItem, Bool.true_and]
      dsimp only
      generalize closed : ({ tracker with
        nesting := { tracker.nesting with task := none, openKey := none }
        pendingDash := false } : Tracker) = ready
      have reopened : ready.reopened = tracker.reopened := by rw [← closed]
      have noTask : ready.nesting.task = none := by rw [← closed]
      split
      · next hasKey =>
          have same : ((ready.ensureTaskSection token.indent).emit taskColumn
              token.nestedText).reopened = tracker.reopened :=
            (reopened_ensureTaskSection ready token.indent).trans reopened
          have opened := started_openTask same token.indent
          exact taskStep_of_started { opened with } hasKey
      · next noKey =>
          refine taskStep_of_kept (.inr ?_) (by simpa using noKey)
          change (ready.ensureTaskSection token.indent).nesting.task = none
          unfold ensureTaskSection
          split <;> exact noTask
  · next elsewhere =>
      rw [Bool.eq_false_iff.mpr elsewhere, Bool.false_and]
      exact taskStep_of_kept (.inl (taskStep_pushContinuation _ token)) rfl

/-- **Placing a line and tasks.** A line that starts a task leaves a new task open in which no shell
block is remembered; any other line leaves the task that was open, or none. -/
theorem taskStep_place (tracker : Tracker) (token : LineToken) :
    TaskStep tracker (tracker.place token) (tracker.placingStartsTask token) := by
  unfold place placingStartsTask
  cases role : token.role with
  | blank => exact taskStep_of_kept (.inl rfl) rfl
  | comment =>
      refine taskStep_of_kept (.inl ?_) rfl
      dsimp only
      unfold copyLine
      split <;> rfl
  | documentMarker =>
      refine taskStep_of_kept (.inr ?_) rfl
      dsimp only
      unfold pushDocumentMarker
      dsimp only
      split <;> rfl
  | playHeader => exact taskStep_of_kept (.inr rfl) rfl
  | taskHeader dashed => exact taskStep_of_started (tracker.taskStep_pushTaskHeader token) rfl
  | playAttribute => exact tracker.taskStep_pushPlayAttribute token
  | taskAttribute => exact tracker.taskStep_pushTaskAttribute token
  | moduleInvocation => exact tracker.taskStep_pushModule token
  | shellFragment family => exact tracker.taskStep_openFragment token
  | keyValue => exact tracker.taskStep_pushKeyValue token
  | listItem => exact tracker.taskStep_pushListItem token
  | continuation =>
      refine taskStep_of_kept (.inl ?_) rfl
      dsimp only
      unfold pushUnplaced
      split <;> exact taskStep_pushContinuation _ token

/-! ## One line -/

theorem task_closeShell (tracker : Tracker) (block : ShellBlock) :
    (tracker.closeShell block).nesting.task = tracker.nesting.task := by
  unfold closeShell
  dsimp only
  split <;> rfl

theorem task_flushShell (tracker : Tracker) :
    tracker.flushShell.nesting.task = tracker.nesting.task := by
  unfold flushShell
  split
  · exact tracker.task_closeShell _
  · rfl

/-- What a line leaves may be the open task. -/
theorem task_leave (tracker : Tracker) (token : LineToken) :
    ((tracker.leave token).nesting.task = tracker.nesting.task ∨
      (tracker.leave token).nesting.task = none) ∧
      (tracker.leave token).reopened = tracker.reopened := by
  have leftKey : (tracker.leaveKey token).nesting.task = tracker.nesting.task ∧
      (tracker.leaveKey token).reopened = tracker.reopened := by
    unfold leaveKey
    split <;> exact ⟨rfl, rfl⟩
  unfold leave
  dsimp only
  rw [← leftKey.1, ← leftKey.2]
  generalize tracker.leaveKey token = left
  split
  · unfold closeByDedent
    split
    · exact ⟨.inl rfl, rfl⟩
    · dsimp only
      split <;> split
      · exact ⟨.inr rfl, rfl⟩
      · exact ⟨.inr rfl, rfl⟩
      · exact ⟨.inl rfl, rfl⟩
      · exact ⟨.inl rfl, rfl⟩
  · exact ⟨.inl rfl, rfl⟩

theorem task_takeNested? {tracker taken : Tracker}
    (takes : tracker.takeNested? token = some taken) :
    taken.nesting.task = tracker.nesting.task := by
  unfold takeNested? at takes
  split at takes
  · cases takes
  · split at takes
    · cases takes
      rfl
    · cases takes

/-- **One line and tasks.** A line that starts a task leaves a new task open in which no shell block
is remembered; any other line leaves the task that was open, or none. -/
theorem taskStep_push (tracker : Tracker) (token : LineToken) :
    TaskStep tracker.flushShell (tracker.push token) (tracker.startsTask token) := by
  unfold startsTask
  cases absorbs : tracker.extendShell? token with
  | some extended =>
      obtain ⟨block, absorbed, _, _, rfl⟩ := extendShell?_eq_some absorbs
      rw [push_of_absorbed absorbs]
      exact taskStep_of_kept (.inl tracker.task_flushShell.symm) rfl
  | none =>
      rw [push_of_outside absorbs]
      generalize tracker.flushShell = closed
      by_cases isBlank : token.role = .blank
      · refine taskStep_of_kept (.inl ?_) (by simp [isBlank])
        rw [pushOutsideShell, if_pos isBlank, pushBlank]
        split
        · rfl
        · split <;> rfl
      · cases takes : closed.takeNested? token with
        | some taken =>
            rw [pushOutsideShell_of_taken isBlank takes]
            exact taskStep_of_kept (.inl (task_takeNested? takes)) (by simp [takes])
        | none =>
            rw [pushOutsideShell_of_apart isBlank takes]
            have step := (closed.leave token).taskStep_place token
            obtain ⟨left, reopened⟩ := closed.task_leave token
            simp only [takes, isBlank, decide_not, decide_false, Bool.not_false, Option.isNone_none,
              Bool.and_self, Bool.true_and]
            unfold TaskStep at step ⊢
            split
            · next isStart =>
                rw [if_pos isStart] at step
                exact { step with reopened := step.reopened.trans reopened }
            · next noStart =>
                rw [if_neg noStart] at step
                rcases step with same | closed
                · rw [same]
                  exact left
                · exact .inr closed

end PlaybookRepair.Tracker
