import PlaybookRepair.Proofs.Tracker.Task

/-!
# What is open at the same time

The pieces of a tracker's state depend on each other. A list of tasks is open only in a play, and a
task of a play only in its list. The list marker of a task is pending only while the block that will
carry it is gathered for the first time. No key is open beside a shell block, and only an open shell
block has an earlier place to go to. `Tracker.Coherent` states this, and every line preserves it
(`Coherent.push`).

Between a line that is not absorbed and the line before it the open shell block is written. In that
moment no block is open and no marker is pending (`Tracker.Settled`), and this is what every line
that is placed by its role may rely on. Opening a task is the only step that leaves a marker pending
(`Tracker.Apart`); the line for which the task has been opened takes the marker, or opens a block
that will.
-/

namespace PlaybookRepair.Tracker

/-- The pieces of the state agree with each other. -/
structure Coherent (tracker : Tracker) : Prop where
  play : tracker.nesting.taskSection.isSome → tracker.nesting.play.isSome
  taskSection : tracker.nesting.task.isSome → tracker.nesting.play.isSome →
    tracker.nesting.taskSection.isSome
  pending : tracker.pendingDash → tracker.nesting.shell.isSome ∧ tracker.reopened = none ∧
    tracker.nesting.task.isSome
  openKey : tracker.nesting.shell.isSome → tracker.nesting.openKey = none
  reopened : tracker.reopened.isSome → tracker.nesting.shell.isSome

/-- No shell block is open, and the open sections agree with each other. -/
structure Apart (tracker : Tracker) : Prop where
  play : tracker.nesting.taskSection.isSome → tracker.nesting.play.isSome
  taskSection : tracker.nesting.task.isSome → tracker.nesting.play.isSome →
    tracker.nesting.taskSection.isSome
  shell : tracker.nesting.shell = none
  reopened : tracker.reopened = none

/-- Nor is a list marker pending. -/
structure Settled (tracker : Tracker) : Prop extends Apart tracker where
  pending : tracker.pendingDash = false

variable {tracker : Tracker} {token : LineToken}

theorem Settled.coherent (settled : Settled tracker) : Coherent tracker where
  play := settled.play
  taskSection := settled.taskSection
  pending isPending := by rw [settled.pending] at isPending; cases isPending
  openKey isOpen := by rw [settled.shell] at isOpen; cases isOpen
  reopened isReopened := by rw [settled.reopened] at isReopened; cases isReopened

/-- A tracker without an open shell block is settled. -/
theorem Coherent.settled (coherent : Coherent tracker) (shell : tracker.nesting.shell = none) :
    Settled tracker := by
  have noShell : ¬ tracker.nesting.shell.isSome := by
    rw [shell]
    exact Bool.false_ne_true
  exact
    { play := coherent.play
      taskSection := coherent.taskSection
      shell := shell
      reopened := Option.not_isSome_iff_eq_none.mp fun again => noShell (coherent.reopened again)
      pending := eq_false_of_ne_true fun isPending => noShell (coherent.pending isPending).1 }

/-! ## Sections -/

/-- The tasks of a play are closed together with their list and their marker. -/
theorem Apart.closeTasks (apart : Apart tracker) :
    Settled { tracker with nesting := tracker.nesting.closeTasks, pendingDash := false } where
  play := nofun
  taskSection := nofun
  shell := apart.shell
  reopened := apart.reopened
  pending := rfl

theorem Settled.closeTask (settled : Settled tracker) : Settled tracker.closeTask where
  play := settled.play
  taskSection := nofun
  shell := settled.shell
  reopened := settled.reopened
  pending := rfl

/-- The list of tasks of the open play is open once it is needed. -/
theorem Settled.ensureTaskSection (settled : Settled tracker) (sourceIndent : Nat) :
    Settled (tracker.ensureTaskSection sourceIndent) ∧
      ((tracker.ensureTaskSection sourceIndent).nesting.play.isSome →
        (tracker.ensureTaskSection sourceIndent).nesting.taskSection.isSome) := by
  unfold Tracker.ensureTaskSection
  split
  · next needed =>
    obtain ⟨inPlay, -⟩ := Bool.and_eq_true_iff.mp needed
    refine ⟨?_, fun _ => rfl⟩
    exact
      { settled with
        play := fun _ => inPlay
        taskSection := fun _ _ => rfl }
  · next unneeded =>
    refine ⟨settled, fun inPlay => ?_⟩
    rw [inPlay, Bool.true_and, Bool.not_eq_true, Option.isNone_eq_false_iff] at unneeded
    exact unneeded

/-- A task may be opened wherever the list of the open play is. -/
theorem Settled.openTask (settled : Settled tracker)
    (listed : tracker.nesting.play.isSome → tracker.nesting.taskSection.isSome)
    (sourceIndent : Nat) : Settled (tracker.openTask sourceIndent) :=
  { settled with taskSection := fun _ => listed }

/-- Where no task is open yet, one is opened, and its marker is pending. -/
theorem Settled.ensureTask (settled : Settled tracker) (keyIndent : Nat) :
    Apart (tracker.ensureTask keyIndent) ∧ (tracker.ensureTask keyIndent).nesting.task.isSome := by
  unfold Tracker.ensureTask
  split
  · next inTask => exact ⟨settled.toApart, inTask⟩
  · obtain ⟨ready, listed⟩ := settled.ensureTaskSection (keyIndent - indentStep)
    have opened := ready.openTask listed (keyIndent - indentStep)
    exact ⟨{ opened with }, rfl⟩

/-! ## Keys -/

theorem Settled.emitKey (settled : Settled tracker) (token : LineToken) (column : Nat) :
    Settled (tracker.emitKey token column) :=
  { settled with }

theorem Settled.emitHeader (settled : Settled tracker) (token : LineToken) (column : Nat) :
    Settled (tracker.emitHeader token column) :=
  { settled with }

/-- A key of a task takes the marker that is pending. -/
theorem Apart.emitTaskKey (apart : Apart tracker) (token : LineToken) :
    Settled (tracker.emitTaskKey token) := by
  have taken : Settled (tracker.closeKey.emitTaskLine token.keyedText) := by
    unfold Tracker.emitTaskLine
    split
    · exact { apart with pending := rfl }
    · next notPending => exact { apart with pending := eq_false_of_ne_true notPending }
  exact { taken with }

theorem Settled.ensureTask_emitTaskKey (settled : Settled tracker) (token : LineToken)
    (keyIndent : Nat) : Settled ((tracker.ensureTask keyIndent).emitTaskKey token) :=
  (settled.ensureTask keyIndent).1.emitTaskKey token

/-! ## Lines by their role -/

theorem Settled.copyLine (settled : Settled tracker) (token : LineToken) :
    Settled (tracker.copyLine token) := by
  unfold Tracker.copyLine
  split
  · exact { settled with }
  · exact settled

theorem Settled.pushDocumentMarker (settled : Settled tracker) (token : LineToken) :
    Settled (tracker.pushDocumentMarker token) := by
  have closed : Settled
      { tracker with
        nesting := tracker.nesting.reset, lastKeyColumn := none, pendingDash := false } :=
    { settled with play := nofun, taskSection := nofun, pending := rfl }
  unfold Tracker.pushDocumentMarker
  dsimp only
  split
  · exact { closed with }
  · exact closed

theorem Settled.pushPlayHeader (settled : Settled tracker) (token : LineToken) :
    Settled (tracker.pushPlayHeader token) := by
  have opened : Settled
      { tracker with
        nesting := { tracker.nesting.reset with play := some token.indent }
        pendingDash := false } :=
    { settled with play := nofun, taskSection := nofun, pending := rfl }
  exact opened.emitHeader token playColumn

theorem Settled.pushTaskHeader (settled : Settled tracker) (token : LineToken) :
    Settled (tracker.pushTaskHeader token) := by
  have closed : Settled
      (tracker.withNesting { tracker.nesting with task := none, openKey := none }) :=
    { settled with taskSection := nofun }
  unfold Tracker.pushTaskHeader
  dsimp only
  generalize (if token.dashed then token.indent else token.indent - indentStep) = sourceIndent
  obtain ⟨ready, listed⟩ := closed.ensureTaskSection sourceIndent
  have opened := ready.openTask listed sourceIndent
  exact { opened with pending := rfl }

theorem Settled.pushMisplaced (settled : Settled tracker) (token : LineToken)
    (reason : AmbiguityReason) : Settled (tracker.pushMisplaced token reason) := by
  have noted : Settled (tracker.note token reason) := { settled with }
  unfold Tracker.pushMisplaced
  dsimp only
  split
  · exact noted.closeTasks.emitKey token playKeyColumn
  · split
    · exact noted.ensureTask_emitTaskKey token token.indent
    · exact noted.emitKey token 0

theorem Settled.pushPlayAttribute (settled : Settled tracker) (token : LineToken) :
    Settled (tracker.pushPlayAttribute token) := by
  unfold Tracker.pushPlayAttribute
  split
  · exact settled.pushMisplaced token .playAttributeOutsidePlay
  · next inPlay =>
    rw [Bool.not_eq_true, Option.isNone_eq_false_iff] at inPlay
    have closed := settled.closeTasks
    dsimp only
    split
    · exact { closed with play := fun _ => inPlay, taskSection := nofun }
    · exact closed.emitKey token playKeyColumn

theorem Settled.pushTaskAttribute (settled : Settled tracker) (token : LineToken) :
    Settled (tracker.pushTaskAttribute token) := by
  unfold Tracker.pushTaskAttribute
  split
  · exact settled.emitTaskKey token
  · exact settled.pushMisplaced token .taskAttributeOutsideTask

theorem Settled.pushKeyValue (settled : Settled tracker) (token : LineToken) :
    Settled (tracker.pushKeyValue token) := by
  unfold Tracker.pushKeyValue
  split
  · exact settled.emitTaskKey token
  · split
    · exact settled.ensureTask_emitTaskKey token token.indent
    · exact settled.emitKey token _

theorem Settled.pushContinuation (settled : Settled tracker) (token : LineToken) :
    Settled (tracker.pushContinuation token) := by
  unfold Tracker.pushContinuation
  split
  · exact { settled with }
  · exact settled.copyLine token

theorem Settled.pushUnplaced (settled : Settled tracker) (token : LineToken) :
    Settled (tracker.pushUnplaced token) := by
  have noted : Settled (tracker.note token .nothingToContinue) := { settled with }
  unfold Tracker.pushUnplaced
  split
  · exact settled.pushContinuation token
  · exact noted.pushContinuation token

theorem Settled.pushListItem (settled : Settled tracker) (token : LineToken) :
    Settled (tracker.pushListItem token) := by
  have closed : Settled
      { tracker with
        nesting := { tracker.nesting with task := none, openKey := none }, pendingDash := false } :=
    { settled with taskSection := nofun, pending := rfl }
  have noted : Settled (tracker.note token .itemOutsideList) := { settled with }
  unfold Tracker.pushListItem
  split
  · obtain ⟨ready, listed⟩ := closed.ensureTaskSection token.indent
    dsimp only
    split
    · have opened := ready.openTask listed token.indent
      exact { opened with }
    · exact { ready with }
  · exact noted.pushContinuation token

/-! ## Shell blocks -/

/-- A block is opened in a task, whose marker it will carry if that is pending, or outside of all
tasks, where no marker is. -/
theorem Settled.openShell (settled : Settled tracker) (token : LineToken) (block : ShellBlock) :
    Coherent (tracker.openShell token block) := by
  have closed : Settled tracker.closeKey := { settled with }
  unfold Tracker.openShell
  dsimp only
  split
  · obtain ⟨apart, inTask⟩ := closed.ensureTask token.indent
    have noKey : (tracker.closeKey.ensureTask token.indent).nesting.openKey = none := by
      unfold Tracker.ensureTask Tracker.ensureTaskSection
      split
      · rfl
      · split
        · rfl
        · rfl
    exact
      { play := apart.play
        taskSection := apart.taskSection
        pending := fun _ => ⟨rfl, apart.reopened, inTask⟩
        openKey := fun _ => noKey
        reopened := fun _ => rfl }
  · have noted : Settled (tracker.closeKey.note token .shellOutsideTask) := { closed with }
    have stillCoherent := noted.coherent
    exact
      { play := stillCoherent.play
        taskSection := stillCoherent.taskSection
        pending := fun isPending => by
          have noShell := (stillCoherent.pending isPending).1
          rw [noted.shell] at noShell
          cases noShell
        openKey := fun _ => rfl
        reopened := fun _ => rfl }

theorem Settled.openFragment (settled : Settled tracker) (token : LineToken) :
    Coherent (tracker.openFragment token) := by
  have forgotten : Settled { tracker with taskAction := none } := { settled with }
  unfold Tracker.openFragment
  dsimp only
  split
  · exact
      { play := settled.play
        taskSection := settled.taskSection
        -- The task has written its script already, and with it the marker.
        pending := fun isPending => by
          rw [settled.pending] at isPending
          cases isPending
        openKey := fun _ => rfl
        reopened := fun _ => rfl }
  · have noted : Settled (({ tracker with taskAction := none } : Tracker).note token
        .shellAfterAction) := { forgotten with }
    exact noted.closeTask.openShell token _
  · exact forgotten.openShell token _

theorem Settled.pushModule (settled : Settled tracker) (token : LineToken) :
    Coherent (tracker.pushModule token) := by
  unfold Tracker.pushModule
  split
  · exact settled.openShell token _
  · split
    · have written := settled.ensureTask_emitTaskKey token token.indent
      exact { written.coherent with }
    · exact (settled.pushMisplaced token .moduleOutsideTask).coherent

/-- Writing the open block gives it the marker that is pending, so that none is any more. -/
theorem Coherent.flushShell (coherent : Coherent tracker) : Settled tracker.flushShell := by
  cases shell : tracker.nesting.shell with
  | none =>
      rw [flushShell_of_none shell]
      exact coherent.settled shell
  | some block =>
      rw [flushShell_of_some shell]
      have taken : (tracker.pendingDash &&
          (tracker.reopened.isSome || tracker.nesting.task.isNone)) = false := by
        cases isPending : tracker.pendingDash with
        | false => rfl
        | true =>
            obtain ⟨-, fresh, inTask⟩ := coherent.pending isPending
            rw [fresh, Option.isNone_eq_false_iff.mpr inTask]
            rfl
      unfold closeShell
      dsimp only
      split
      · exact ⟨⟨coherent.play, coherent.taskSection, rfl, rfl⟩, taken⟩
      · exact ⟨⟨coherent.play, coherent.taskSection, rfl, rfl⟩, taken⟩

/-! ## One line -/

/-- Placing a line by its role keeps the pieces of the state in agreement. -/
theorem Settled.place (settled : Settled tracker) (token : LineToken) :
    Coherent (tracker.place token) := by
  unfold Tracker.place
  cases token.role with
  | blank => exact settled.coherent
  | comment => exact (settled.copyLine token).coherent
  | documentMarker => exact (settled.pushDocumentMarker token).coherent
  | playHeader => exact (settled.pushPlayHeader token).coherent
  | taskHeader dashed => exact (settled.pushTaskHeader token).coherent
  | playAttribute => exact (settled.pushPlayAttribute token).coherent
  | taskAttribute => exact (settled.pushTaskAttribute token).coherent
  | moduleInvocation => exact settled.pushModule token
  | shellFragment family => exact settled.openFragment token
  | keyValue => exact (settled.pushKeyValue token).coherent
  | listItem => exact (settled.pushListItem token).coherent
  | continuation => exact (settled.pushUnplaced token).coherent

/-- A line leaves a task together with its marker, and a list of tasks only when no task is open in
it. -/
theorem Settled.leave (settled : Settled tracker) (token : LineToken) :
    Settled (tracker.leave token) := by
  have left : Settled (tracker.leaveKey token) := by
    unfold Tracker.leaveKey
    split
    · exact settled
    · exact { settled with }
  unfold Tracker.leave
  dsimp only
  split
  · unfold Tracker.closeByDedent
    split
    · exact left
    · have leftTask : Settled (if (tracker.leaveKey token).leavesTask token then
          (tracker.leaveKey token).closeTask else tracker.leaveKey token) := by
        split
        · exact left.closeTask
        · exact left
      dsimp only
      generalize (if (tracker.leaveKey token).leavesTask token then
        (tracker.leaveKey token).closeTask else tracker.leaveKey token) = ready at leftTask
      split
      · next leaves =>
        have noTask : ready.nesting.task = none := by
          unfold leavesSection at leaves
          rw [Bool.and_eq_true, Bool.and_eq_true] at leaves
          exact Option.isNone_iff_eq_none.mp leaves.1.2
        have noneOpen : ¬ ready.nesting.task.isSome := by
          rw [noTask]
          exact Bool.false_ne_true
        exact
          { leftTask with
            play := nofun
            taskSection := fun inTask => (noneOpen inTask).elim }
      · exact leftTask
  · exact left

theorem Settled.pushOutsideShell (settled : Settled tracker) (token : LineToken) :
    Coherent (tracker.pushOutsideShell token) := by
  by_cases isBlank : token.role = .blank
  · rw [Tracker.pushOutsideShell, if_pos isBlank]
    unfold Tracker.pushBlank
    dsimp only
    split
    · exact settled.coherent
    · split
      · exact { settled.coherent with }
      · exact settled.coherent
  · cases takes : tracker.takeNested? token with
    | none =>
        rw [pushOutsideShell_of_apart isBlank takes]
        exact (settled.leave token).place token
    | some taken =>
        rw [pushOutsideShell_of_taken isBlank takes]
        unfold takeNested? at takes
        split at takes
        · cases takes
        · split at takes
          · cases takes
            have written : Settled _ := settled
            exact Settled.coherent { written with }
          · cases takes

/-- **One line.** Every line keeps the pieces of the state in agreement. -/
theorem Coherent.push (coherent : Coherent tracker) (token : LineToken) :
    Coherent (tracker.push token) := by
  cases absorbs : tracker.extendShell? token with
  | none =>
      rw [push_of_outside absorbs]
      exact coherent.flushShell.pushOutsideShell token
  | some extended =>
      obtain ⟨block, absorbed, shell, -, rfl⟩ := extendShell?_eq_some absorbs
      have isOpen : tracker.nesting.shell.isSome := by
        rw [shell]
        rfl
      rw [push_of_absorbed absorbs]
      exact
        { play := coherent.play
          taskSection := coherent.taskSection
          pending := fun isPending => ⟨rfl, (coherent.pending isPending).2⟩
          openKey := fun _ => coherent.openKey isOpen
          reopened := fun _ => rfl }

theorem coherent_start (mode : RebuildMode) (kind : FileKind) : Coherent (start mode kind) where
  play := nofun
  taskSection := nofun
  pending := nofun
  openKey := nofun
  reopened := nofun

end PlaybookRepair.Tracker
