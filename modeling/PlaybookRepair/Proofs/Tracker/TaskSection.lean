import PlaybookRepair.Proofs.Tracker.Task

/-!
# The list of tasks of a play

In a play the list of tasks is opened by its key, or by the first line that needs one; the key
`tasks` is then supplied. It is left by keywords of the play, by keywords of tasks without a task,
and in the incremental mode by the column of a line. `Tracker.opensList` and `Tracker.leavesList`
tell from the state and the line which of this happens (`taskSection_push`), and
`Tracker.suppliesTasks` whether the key is supplied (`out_push`).
-/

namespace PlaybookRepair

open Catalog (isTaskSection)
open InlineValue (isBlockIndicator)

/-- The line is the key of a list of tasks that follows below. -/
def LineToken.startsList (token : LineToken) : Bool :=
  token.role = .playAttribute && token.key.any isTaskSection && token.opensBlock &&
    !isBlockIndicator token.value

namespace Tracker

variable {tracker before middle after : Tracker} {token : LineToken} {needs : Bool}

/-- Whether a line that is placed by its role is a task or an item of a list of tasks. -/
def needsList (tracker : Tracker) (token : LineToken) : Bool :=
  match token.role with
  | .listItem =>
      tracker.atTaskPosition && (tracker.nesting.task.isNone || tracker.mode = .canonical)
  | _ => tracker.placingStartsTask token

/-- Whether a line that is placed by its role ends the list of tasks of the open play. -/
def endsList (tracker : Tracker) (token : LineToken) : Bool :=
  tracker.nesting.play.isSome && (token.role = .playAttribute ||
    token.role = .taskAttribute && tracker.nesting.task.isNone)

/-- The key of a list of tasks, if one is needed in the open play and there is none. -/
def supplied (tracker : Tracker) (needs : Bool) : List Text :=
  if needs && tracker.nesting.play.isSome && tracker.nesting.taskSection.isNone then
    [suppliedTasks]
  else []

/-! ## Placing a line -/

/-- A list of tasks has been opened in the open play, if one is needed. -/
structure Ensured (before : Tracker) (needs : Bool) (after : Tracker) : Prop where
  play : after.nesting.play = before.nesting.play
  taskSection : after.nesting.taskSection.isSome =
    (needs && before.nesting.play.isSome || before.nesting.taskSection.isSome)
  out : after.out = before.out ++ before.supplied needs

/-- What becomes of the list of tasks of the open play: it is opened by a line that needs one or
starts it, and left by one that ends it. At most one line is written behind the supplied key. -/
structure ListStep (before : Tracker) (needs starts ends : Bool) (after : Tracker) : Prop where
  play : after.nesting.play = before.nesting.play
  taskSection : after.nesting.taskSection.isSome =
    ((needs || starts) && before.nesting.play.isSome ||
      !ends && before.nesting.taskSection.isSome)
  out : ∃ lines : List Text, lines.length ≤ 1 ∧
    after.out = before.out ++ before.supplied needs ++ lines

theorem supplied_false (tracker : Tracker) : tracker.supplied false = [] := rfl

/-- A step that writes at most one line leaves the list of tasks as it is. -/
theorem Ensured.write (ensured : Ensured before needs middle) {lines : List Text}
    (adds : Adds middle after lines) (short : lines.length ≤ 1)
    (play : after.nesting.play = middle.nesting.play)
    (taskSection : after.nesting.taskSection = middle.nesting.taskSection) :
    ListStep before needs false false after where
  play := play.trans ensured.play
  taskSection := by
    rw [taskSection, ensured.taskSection]
    simp
  out := ⟨lines, short, by rw [adds.out, ensured.out]⟩

theorem Ensured.refl (tracker : Tracker) : Ensured tracker false tracker where
  play := rfl
  taskSection := rfl
  out := (List.append_nil _).symm

theorem listStep_of_adds {lines : List Text} (adds : Adds before after lines)
    (short : lines.length ≤ 1) (play : after.nesting.play = before.nesting.play)
    (taskSection : after.nesting.taskSection = before.nesting.taskSection) :
    ListStep before false false false after :=
  (Ensured.refl before).write adds short play taskSection

/-- What leaves the play, its list and the lines alone may come before. -/
theorem ListStep.after_silent {silent : Tracker} {starts ends : Bool}
    (step : ListStep silent needs starts ends after) (nesting : silent.nesting.play =
      before.nesting.play ∧ silent.nesting.taskSection = before.nesting.taskSection)
    (out : silent.out = before.out) : ListStep before needs starts ends after where
  play := step.play.trans nesting.1
  taskSection := by rw [step.taskSection, nesting.1, nesting.2]
  out := by
    obtain ⟨lines, short, isOut⟩ := step.out
    refine ⟨lines, short, ?_⟩
    rw [isOut, out, supplied, supplied, nesting.1, nesting.2]

theorem ensured_ensureTaskSection (tracker : Tracker) (sourceIndent : Nat) :
    Ensured tracker true (tracker.ensureTaskSection sourceIndent) := by
  unfold ensureTaskSection
  split
  · next lacks =>
      obtain ⟨inPlay, _⟩ := Bool.and_eq_true_iff.mp lacks
      refine ⟨rfl, by simp [inPlay, withNesting, emit, emitLine], ?_⟩
      rw [supplied, if_pos (by simpa using lacks)]
      rfl
  · next listed =>
      refine ⟨rfl, ?_, ?_⟩
      · cases play : tracker.nesting.play.isSome with
        | false => rfl
        | true => simpa [play, Option.isSome_iff_ne_none] using listed
      · rw [supplied, if_neg (by simpa using listed), List.append_nil]

theorem ensured_ensureTask (tracker : Tracker) (keyIndent : Nat) :
    Ensured tracker tracker.nesting.task.isNone (tracker.ensureTask keyIndent) := by
  unfold ensureTask
  split
  · next task =>
      rw [Option.isNone_eq_false_iff.mpr task]
      exact .refl tracker
  · next noTask =>
      rw [show tracker.nesting.task.isNone = true by simpa using noTask]
      have ensured := tracker.ensured_ensureTaskSection (keyIndent - indentStep)
      exact ⟨ensured.play, ensured.taskSection, ensured.out⟩

/-- A line of a task is written in the task that has been opened for it. -/
theorem Ensured.emitTaskKey (ensured : Ensured before needs middle) (token : LineToken) :
    ListStep before needs false false (middle.emitTaskKey token) := by
  have nesting : (middle.emitTaskKey token).nesting.play = middle.nesting.play ∧
      (middle.emitTaskKey token).nesting.taskSection = middle.nesting.taskSection := by
    unfold Tracker.emitTaskKey
    change (middle.closeKey.emitTaskLine token.keyedText).nesting.play = _ ∧
      (middle.closeKey.emitTaskLine token.keyedText).nesting.taskSection = _
    rw [task_emitTaskLine]
    exact ⟨rfl, rfl⟩
  rcases middle.adds_emitTaskKey token with adds | adds
  · exact ensured.write adds (Nat.le_refl 1) nesting.1 nesting.2
  · exact ensured.write adds (Nat.le_refl 1) nesting.1 nesting.2

/-- Outside of plays nothing is supplied. -/
theorem ListStep.of_noPlay {starts ends : Bool} (step : ListStep before needs starts ends after)
    (noPlay : before.nesting.play = none) (other : Bool) :
    ListStep before other starts ends after where
  play := step.play
  taskSection := by
    rw [step.taskSection, noPlay]
    simp
  out := by
    obtain ⟨lines, short, out⟩ := step.out
    refine ⟨lines, short, ?_⟩
    rw [out, supplied, supplied, noPlay]
    simp

/-- A line without a section of its own ends the list of tasks. -/
theorem listStep_pushMisplaced (tracker : Tracker) (token : LineToken) (reason : AmbiguityReason) :
    ListStep tracker false false tracker.nesting.play.isSome
      (tracker.pushMisplaced token reason) := by
  unfold pushMisplaced
  dsimp only
  rw [show (tracker.note token reason).nesting = tracker.nesting from rfl]
  split
  · next inPlay =>
      rw [inPlay]
      refine ⟨rfl, rfl, [indented playKeyColumn token.keyedText], Nat.le_refl 1, ?_⟩
      rw [supplied_false, List.append_nil]
      rfl
  · next outside =>
      have noPlay : tracker.nesting.play = none := by simpa using outside
      rw [noPlay]
      split
      · have written : ListStep (tracker.note token reason) _ false false _ :=
          ((tracker.note token reason).ensured_ensureTask token.indent).emitTaskKey token
        have step : ListStep tracker _ false false _ := written.after_silent ⟨rfl, rfl⟩ rfl
        exact step.of_noPlay noPlay false
      · exact (listStep_of_adds (adds_emitKey _ token 0) (Nat.le_refl 1) rfl rfl).after_silent
          ⟨rfl, rfl⟩ rfl

/-- A keyword of a play ends the list of tasks, and may be the key of another one. -/
theorem listStep_pushPlayAttribute (tracker : Tracker) (isAttribute : token.role = .playAttribute) :
    ListStep tracker false token.startsList tracker.nesting.play.isSome
      (tracker.pushPlayAttribute token) := by
  unfold pushPlayAttribute
  split
  · next outside =>
      have noPlay : tracker.nesting.play = none := Option.isNone_iff_eq_none.mp outside
      have step := tracker.listStep_pushMisplaced token .playAttributeOutsidePlay
      exact { step with taskSection := by rw [step.taskSection, noPlay]; simp }
  · next inPlay =>
      have isOpen : tracker.nesting.play.isSome = true := by
        simpa [Option.isSome_iff_ne_none] using inPlay
      have starts : token.startsList = (token.key.any isTaskSection && token.opensBlock &&
          !isBlockIndicator token.value) := by
        simp [LineToken.startsList, isAttribute]
      dsimp only
      rw [isOpen, ← starts]
      split
      · next isStart =>
          refine ⟨rfl, by simp [isStart, isOpen], [indented playKeyColumn token.keyedText],
            Nat.le_refl 1, ?_⟩
          rw [supplied_false, List.append_nil]
          rfl
      · next noStart =>
          refine ⟨rfl, ?_, [indented playKeyColumn token.keyedText], Nat.le_refl 1, ?_⟩
          · rw [Bool.eq_false_iff.mpr noStart]
            rfl
          · rw [supplied_false, List.append_nil]
            rfl

/-- A keyword of a task ends the list of tasks where there is no task. -/
theorem listStep_pushTaskAttribute (tracker : Tracker) (token : LineToken) :
    ListStep tracker false false (tracker.nesting.play.isSome && tracker.nesting.task.isNone)
      (tracker.pushTaskAttribute token) := by
  unfold pushTaskAttribute
  split
  · next task =>
      rw [Option.isNone_eq_false_iff.mpr task, Bool.and_false]
      exact (Ensured.refl tracker).emitTaskKey token
  · next noTask =>
      rw [show tracker.nesting.task.isNone = true by simpa using noTask, Bool.and_true]
      exact tracker.listStep_pushMisplaced token _

/-- Where no task may start, there is no list of tasks. -/
theorem taskSection_of_not_canHoldTask (cannotHold : ¬ tracker.canHoldTask)
    (inPlay : tracker.nesting.play.isSome) : tracker.nesting.taskSection = none := by
  unfold canHoldTask atTaskPosition at cannotHold
  split at cannotHold
  · simp [inPlay] at cannotHold
  · simp at cannotHold
  · exact (show _ ∧ tracker.nesting.taskSection = none by simpa using cannotHold).2

/-- A shell block is opened in the open task, or in one that has been opened for it. -/
theorem listStep_openShell (tracker : Tracker) (token : LineToken) (block : ShellBlock) :
    ListStep tracker (tracker.nesting.task.isNone && tracker.atTaskPosition) false false
      (tracker.openShell token block) := by
  unfold openShell
  dsimp only
  rw [show tracker.closeKey.canHoldTask = tracker.canHoldTask from rfl]
  split
  · next canHold =>
      rw [startsTask_eq_of_canHoldTask canHold]
      have ensured := tracker.closeKey.ensured_ensureTask token.indent
      have step : ListStep tracker.closeKey tracker.nesting.task.isNone false false
          ((tracker.closeKey.ensureTask token.indent).withNesting
            { (tracker.closeKey.ensureTask token.indent).nesting with shell := some block }) :=
        ⟨ensured.play, by rw [Bool.or_false]; exact ensured.taskSection, [], by simp,
          by rw [List.append_nil]; exact ensured.out⟩
      exact step.after_silent ⟨rfl, rfl⟩ rfl
  · next cannotHold =>
      rw [startsTask_eq_of_not_canHoldTask cannotHold]
      exact ⟨rfl, rfl, [], by simp, by rw [supplied_false, List.append_nil, List.append_nil]; rfl⟩

theorem listStep_pushModule (tracker : Tracker) (token : LineToken) :
    ListStep tracker (tracker.nesting.task.isNone && tracker.atTaskPosition) false false
      (tracker.pushModule token) := by
  unfold pushModule
  split
  · exact tracker.listStep_openShell token _
  · split
    · next canHold =>
        rw [startsTask_eq_of_canHoldTask canHold]
        have step := (tracker.ensured_ensureTask token.indent).emitTaskKey token
        exact ⟨step.play, step.taskSection, step.out⟩
    · next cannotHold =>
        rw [startsTask_eq_of_not_canHoldTask cannotHold]
        have step := tracker.listStep_pushMisplaced token .moduleOutsideTask
        refine { step with taskSection := ?_ }
        rw [step.taskSection]
        cases inPlay : tracker.nesting.play.isSome with
        | false => rfl
        | true => simp [taskSection_of_not_canHoldTask cannotHold inPlay]

theorem listStep_openFragment (tracker : Tracker) (token : LineToken) :
    ListStep tracker
      ((tracker.nesting.task.isNone || tracker.openAction = some .other) && tracker.atTaskPosition)
      false false (tracker.openFragment token) := by
  unfold openFragment
  dsimp only
  cases action : tracker.openAction with
  | none =>
      simp only [reduceCtorEq, decide_false, Bool.or_false]
      exact (listStep_openShell { tracker with taskAction := none } token _).after_silent
        ⟨rfl, rfl⟩ rfl
  | some action' =>
      have task := task_isSome_of_openAction action
      cases action' with
      | shell block placement =>
          simp only [Option.some.injEq, reduceCtorEq, decide_false, Bool.or_false,
            Option.isNone_eq_false_iff.mpr task, Bool.false_and]
          exact ⟨rfl, rfl, [], by simp, by rw [supplied_false, List.append_nil, List.append_nil]⟩
      | other =>
          simp only [decide_true, Bool.or_true, Bool.true_and]
          exact (listStep_openShell (({ tracker with taskAction := none } : Tracker).note token
            .shellAfterAction).closeTask token _).after_silent ⟨rfl, rfl⟩ rfl

theorem listStep_pushKeyValue (tracker : Tracker) (token : LineToken) :
    ListStep tracker
      (tracker.nesting.task.isNone && tracker.atActionPosition && tracker.atTaskPosition)
      false false (tracker.pushKeyValue token) := by
  unfold pushKeyValue
  split
  · next task =>
      rw [Option.isNone_eq_false_iff.mpr task]
      exact (Ensured.refl tracker).emitTaskKey token
  · next noTask =>
      have isNone : tracker.nesting.task.isNone = true := by simpa using noTask
      rw [canHoldTask_of_noTask isNone, isNone, Bool.true_and]
      split
      · next position =>
          rw [position]
          have ensured := tracker.ensured_ensureTask token.indent
          rw [isNone] at ensured
          exact ensured.emitTaskKey token
      · next elsewhere =>
          rw [Bool.eq_false_iff.mpr elsewhere]
          exact listStep_of_adds (adds_emitKey _ token _) (Nat.le_refl 1) rfl rfl

theorem listStep_pushContinuation (tracker : Tracker) (token : LineToken) :
    ListStep tracker false false false (tracker.pushContinuation token) := by
  unfold pushContinuation copyLine
  split
  · exact listStep_of_adds (adds_emit _ _ _) (Nat.le_refl 1) rfl rfl
  · split
    · exact listStep_of_adds (adds_emitLine _ _) (Nat.le_refl 1) rfl rfl
    · exact listStep_of_adds (.refl tracker) (Nat.zero_le 1) rfl rfl

theorem listStep_pushListItem (tracker : Tracker) (token : LineToken) :
    ListStep tracker
      (tracker.atTaskPosition && (tracker.nesting.task.isNone || tracker.mode = .canonical))
      false false (tracker.pushListItem token) := by
  unfold pushListItem
  split
  · next newItem =>
      rw [newItem]
      dsimp only
      generalize closed : ({ tracker with
        nesting := { tracker.nesting with task := none, openKey := none }
        pendingDash := false } : Tracker) = ready
      have same : (ready.nesting.play = tracker.nesting.play ∧
          ready.nesting.taskSection = tracker.nesting.taskSection) ∧ ready.out = tracker.out := by
        rw [← closed]
        exact ⟨⟨rfl, rfl⟩, rfl⟩
      have ensured := ready.ensured_ensureTaskSection token.indent
      have written : ListStep ready true false false
          ((ready.ensureTaskSection token.indent).emit taskColumn token.nestedText) :=
        ensured.write (adds_emit _ _ _) (Nat.le_refl 1) rfl rfl
      have step := written.after_silent same.1 same.2
      split <;> exact ⟨step.play, step.taskSection, step.out⟩
  · next elsewhere =>
      rw [Bool.eq_false_iff.mpr elsewhere]
      exact (listStep_pushContinuation (tracker.note token _) token).after_silent ⟨rfl, rfl⟩ rfl

theorem listStep_pushTaskHeader (tracker : Tracker) (token : LineToken) :
    ListStep tracker true false false (tracker.pushTaskHeader token) := by
  unfold pushTaskHeader
  dsimp only
  generalize (if token.dashed then token.indent else token.indent - indentStep) = sourceIndent
  generalize closed : tracker.withNesting { tracker.nesting with
    task := none, openKey := none } = ready
  have same : (ready.nesting.play = tracker.nesting.play ∧
      ready.nesting.taskSection = tracker.nesting.taskSection) ∧ ready.out = tracker.out := by
    rw [← closed]
    exact ⟨⟨rfl, rfl⟩, rfl⟩
  have ensured := ready.ensured_ensureTaskSection sourceIndent
  have opened : Ensured ready true
      { (ready.ensureTaskSection sourceIndent).openTask sourceIndent with pendingDash := false } :=
    ⟨ensured.play, ensured.taskSection, ensured.out⟩
  exact (opened.write (adds_emitHeader _ token taskColumn) (Nat.le_refl 1) rfl rfl).after_silent
    same.1 same.2

/-- **Placing a line and the list of tasks.** In a play the list of tasks is opened for a line that
needs one, with its key, and by a line that starts it; other keywords of the play end it, and so do
keywords of tasks without a task. -/
theorem listStep_place (tracker : Tracker) (noMarker : token.role ≠ .documentMarker)
    (noHeader : token.role ≠ .playHeader) :
    ListStep tracker (tracker.needsList token) token.startsList (tracker.endsList token)
      (tracker.place token) := by
  have ordinary {needs : Bool} {after : Tracker} (step : ListStep tracker needs false false after)
      (notPlay : token.role ≠ .playAttribute) (notTask : token.role ≠ .taskAttribute) :
      ListStep tracker needs token.startsList (tracker.endsList token) after := by
    have noStart : token.startsList = false := by simp [LineToken.startsList, notPlay]
    have noEnd : tracker.endsList token = false := by simp [endsList, notPlay, notTask]
    rw [noStart, noEnd]
    exact step
  -- Keywords need a list of tasks outside of plays only.
  have keyword {starts ends : Bool} {after : Tracker}
      (step : ListStep tracker false starts ends after) :
      ListStep tracker (tracker.nesting.task.isNone && tracker.nesting.play.isNone &&
        tracker.atTaskPosition) starts ends after := by
    cases play : tracker.nesting.play with
    | none => exact step.of_noPlay play _
    | some column =>
        rw [Option.isNone_some, Bool.and_false, Bool.false_and]
        exact step
  unfold place needsList placingStartsTask
  cases role : token.role with
  | documentMarker => exact (noMarker role).elim
  | playHeader => exact (noHeader role).elim
  | playAttribute =>
      have ends : tracker.endsList token = tracker.nesting.play.isSome := by
        simp [endsList, role]
      rw [ends]
      exact keyword (tracker.listStep_pushPlayAttribute role)
  | taskAttribute =>
      have ends : tracker.endsList token =
          (tracker.nesting.play.isSome && tracker.nesting.task.isNone) := by
        simp [endsList, role]
      have noStart : token.startsList = false := by simp [LineToken.startsList, role]
      rw [ends, noStart]
      exact keyword (tracker.listStep_pushTaskAttribute token)
  | blank =>
      exact ordinary (listStep_of_adds (.refl tracker) (Nat.zero_le 1) rfl rfl) (role ▸ nofun)
        (role ▸ nofun)
  | comment =>
      refine ordinary ?_ (role ▸ nofun) (role ▸ nofun)
      dsimp only
      unfold copyLine
      split
      · exact listStep_of_adds (adds_emitLine _ _) (Nat.le_refl 1) rfl rfl
      · exact listStep_of_adds (.refl tracker) (Nat.zero_le 1) rfl rfl
  | taskHeader =>
      exact ordinary (tracker.listStep_pushTaskHeader token) (role ▸ nofun) (role ▸ nofun)
  | moduleInvocation =>
      exact ordinary (tracker.listStep_pushModule token) (role ▸ nofun) (role ▸ nofun)
  | shellFragment =>
      exact ordinary (tracker.listStep_openFragment token) (role ▸ nofun) (role ▸ nofun)
  | keyValue => exact ordinary (tracker.listStep_pushKeyValue token) (role ▸ nofun) (role ▸ nofun)
  | listItem => exact ordinary (tracker.listStep_pushListItem token) (role ▸ nofun) (role ▸ nofun)
  | continuation =>
      refine ordinary ?_ (role ▸ nofun) (role ▸ nofun)
      dsimp only
      unfold pushUnplaced
      split
      · exact tracker.listStep_pushContinuation token
      · exact (listStep_pushContinuation (tracker.note token _) token).after_silent ⟨rfl, rfl⟩ rfl

/-! ## One line -/

/-- Whether a line is placed by its role: no shell block absorbs it, and it is neither blank nor
part of an open value. -/
def isPlaced (tracker : Tracker) (token : LineToken) : Bool :=
  (tracker.extendShell? token).isNone && token.role ≠ .blank &&
    (tracker.flushShell.takeNested? token).isNone

/-- The state in which a line is placed: the open block has been written, and what the line leaves
by its column has been left. -/
def readyFor (tracker : Tracker) (token : LineToken) : Tracker := tracker.flushShell.leave token

/-- The lines that stand before those that are written with a line. -/
def writtenBefore (tracker : Tracker) (token : LineToken) : List Text :=
  if (tracker.extendShell? token).isNone then tracker.flushShell.out else tracker.out

/-- Whether a line is placed in the open play as a task or as an item of a list of tasks. -/
def placesTask (tracker : Tracker) (token : LineToken) : Bool :=
  tracker.isPlaced token && tracker.nesting.play.isSome && (tracker.readyFor token).needsList token

/-- Whether the key of the list of tasks is supplied before a line. -/
def suppliesTasks (tracker : Tracker) (token : LineToken) : Bool :=
  tracker.placesTask token && (tracker.readyFor token).nesting.taskSection.isNone

/-- Whether a key `tasks` of the open play is written with a line, its own or a supplied one. -/
def writesTasks (tracker : Tracker) (token : LineToken) : Bool :=
  tracker.suppliesTasks token ||
    tracker.isPlaced token && tracker.nesting.play.isSome && token.role = .playAttribute &&
      token.key = some "tasks".toList

/-- Whether a line has the list of tasks of the open play open behind it. -/
def opensList (tracker : Tracker) (token : LineToken) : Bool :=
  tracker.placesTask token ||
    tracker.isPlaced token && tracker.nesting.play.isSome && token.startsList

/-- Whether a line leaves the list of tasks by its column. -/
def leavesByColumn (tracker : Tracker) (token : LineToken) : Bool :=
  tracker.nesting.taskSection.isSome && (tracker.readyFor token).nesting.taskSection.isNone

/-- Whether a line leaves the list of tasks of the open play, by its column or its role. -/
def leavesList (tracker : Tracker) (token : LineToken) : Bool :=
  tracker.isPlaced token && !tracker.opensList token &&
    ((tracker.readyFor token).endsList token || tracker.leavesByColumn token)

/-- Whether a line ends the open play. -/
def endsPlay (tracker : Tracker) (token : LineToken) : Bool :=
  tracker.isPlaced token && (token.role = .documentMarker || token.role = .playHeader)

theorem play_readyFor (tracker : Tracker) (token : LineToken) :
    (tracker.readyFor token).nesting.play = tracker.nesting.play :=
  (tracker.flushShell.leave_state token).2.1.trans tracker.flushShell_play_kind.1

theorem out_readyFor (tracker : Tracker) (token : LineToken) :
    (tracker.readyFor token).out = tracker.flushShell.out := by
  rw [readyFor, (tracker.flushShell.adds_leave token).out, List.append_nil]

/-- A line that is placed as a task is no header of a play and no document marker. -/
theorem placesTask_cases (places : tracker.placesTask token) :
    tracker.isPlaced token ∧ tracker.nesting.play.isSome ∧
      (tracker.readyFor token).needsList token ∧ token.role ≠ .documentMarker ∧
      token.role ≠ .playHeader := by
  obtain ⟨⟨placed, inPlay⟩, needs⟩ : (tracker.isPlaced token ∧ tracker.nesting.play.isSome) ∧
      (tracker.readyFor token).needsList token := by
    simpa [placesTask] using places
  refine ⟨placed, inPlay, needs, fun role => ?_, fun role => ?_⟩
  · simp [needsList, placingStartsTask, role] at needs
  · simp [needsList, placingStartsTask, role] at needs

theorem push_of_isPlaced (placed : tracker.isPlaced token) :
    tracker.push token = (tracker.readyFor token).place token := by
  unfold isPlaced at placed
  simp only [Bool.and_eq_true, Option.isNone_iff_eq_none, decide_eq_true_eq] at placed
  rw [push_of_outside placed.1.1, pushOutsideShell_of_apart placed.1.2 placed.2]
  rfl

theorem taskSection_flushShell (tracker : Tracker) :
    tracker.flushShell.nesting.taskSection = tracker.nesting.taskSection := by
  unfold flushShell
  split
  · unfold closeShell
    dsimp only
    split <;> rfl
  · rfl

/-- What a line leaves may be the list of tasks. -/
theorem taskSection_leave (tracker : Tracker) (token : LineToken) :
    (tracker.leave token).nesting.taskSection = tracker.nesting.taskSection ∨
      (tracker.leave token).nesting.taskSection = none := by
  have leftKey : (tracker.leaveKey token).nesting.taskSection = tracker.nesting.taskSection := by
    unfold leaveKey
    split <;> rfl
  unfold leave
  dsimp only
  rw [← leftKey]
  generalize tracker.leaveKey token = left
  split
  · unfold closeByDedent
    split
    · exact .inl rfl
    · dsimp only
      split <;> split
      · exact .inr rfl
      · exact .inl rfl
      · exact .inr rfl
      · exact .inl rfl
  · exact .inl rfl

theorem taskSection_readyFor (tracker : Tracker) (token : LineToken) :
    (tracker.readyFor token).nesting.taskSection = tracker.nesting.taskSection ∨
      (tracker.readyFor token).nesting.taskSection = none := by
  rw [← tracker.taskSection_flushShell]
  exact tracker.flushShell.taskSection_leave token

/-- A line that is not placed by its role leaves the play and its list of tasks as they are, and at
most one line is written with it. -/
theorem push_of_not_isPlaced (apart : tracker.isPlaced token = false) :
    (tracker.push token).nesting.play = tracker.nesting.play ∧
      (tracker.push token).nesting.taskSection = tracker.nesting.taskSection ∧
      ∃ lines : List Text, lines.length ≤ 1 ∧
        (tracker.push token).out = tracker.writtenBefore token ++ lines := by
  unfold writtenBefore
  cases absorbs : tracker.extendShell? token with
  | some extended =>
      obtain ⟨_, _, _, _, rfl⟩ := extendShell?_eq_some absorbs
      rw [push_of_absorbed absorbs]
      exact ⟨rfl, rfl, [], Nat.zero_le 1, (List.append_nil _).symm⟩
  | none =>
      rw [push_of_outside absorbs, ← tracker.flushShell_play_kind.1,
        ← tracker.taskSection_flushShell, Option.isNone_none, if_pos rfl]
      by_cases isBlank : token.role = .blank
      · rw [pushOutsideShell, if_pos isBlank, pushBlank]
        split
        · exact ⟨rfl, rfl, [], Nat.zero_le 1, (List.append_nil _).symm⟩
        · split
          · exact ⟨rfl, rfl, [[]], Nat.le_refl 1, rfl⟩
          · exact ⟨rfl, rfl, [], Nat.zero_le 1, (List.append_nil _).symm⟩
      · cases takes : tracker.flushShell.takeNested? token with
        | none => simp [isPlaced, absorbs, isBlank, takes] at apart
        | some taken =>
            rw [pushOutsideShell_of_taken isBlank takes]
            unfold takeNested? at takes
            split at takes
            · cases takes
            · split at takes
              · cases takes
                exact ⟨rfl, rfl, [_], Nat.le_refl 1, rfl⟩
              · cases takes

/-- **The list of tasks after a line.** Within a play the list of tasks is open after a line that
opens it, not after a line that leaves it, and after any other line if it was open before. -/
theorem taskSection_push (inPlay : tracker.nesting.play.isSome)
    (stays : tracker.endsPlay token = false) :
    (tracker.push token).nesting.play.isSome ∧
      (tracker.push token).nesting.taskSection.isSome =
        if tracker.opensList token then true
        else if tracker.leavesList token then false
        else tracker.nesting.taskSection.isSome := by
  cases placed : tracker.isPlaced token with
  | false =>
      obtain ⟨play, taskSection, _⟩ := push_of_not_isPlaced placed
      rw [play, taskSection]
      simp [inPlay, opensList, placesTask, leavesList, placed]
  | true =>
      obtain ⟨noMarker, noHeader⟩ : token.role ≠ .documentMarker ∧ token.role ≠ .playHeader := by
        simpa [endsPlay, placed] using stays
      have play := tracker.play_readyFor token
      have left := tracker.taskSection_readyFor token
      have step := (tracker.readyFor token).listStep_place noMarker noHeader
      rw [push_of_isPlaced placed]
      refine ⟨by rw [step.play, play]; exact inPlay, ?_⟩
      have opens : tracker.opensList token =
          ((tracker.readyFor token).needsList token || token.startsList) := by
        simp [opensList, placesTask, placed, inPlay]
      rw [step.taskSection, play, inPlay, Bool.and_true, ← opens]
      cases isOpened : tracker.opensList token with
      | true => rfl
      | false =>
          unfold leavesList leavesByColumn
          rw [placed, isOpened]
          rcases left with same | isNone
          · rw [same]
            cases (tracker.readyFor token).endsList token <;>
              cases tracker.nesting.taskSection <;> rfl
          · rw [isNone]
            cases (tracker.readyFor token).endsList token <;>
              cases tracker.nesting.taskSection <;> rfl

/-- What is written with a line of a play: first the key of the list of tasks if it is supplied,
then at most one line. -/
theorem out_push (stays : tracker.endsPlay token = false) :
    ∃ lines : List Text, lines.length ≤ 1 ∧
      (tracker.push token).out = tracker.writtenBefore token ++
        (if tracker.suppliesTasks token then [suppliedTasks] else []) ++ lines := by
  cases placed : tracker.isPlaced token with
  | true =>
      obtain ⟨noMarker, noHeader⟩ : token.role ≠ .documentMarker ∧ token.role ≠ .playHeader := by
        simpa [endsPlay, placed] using stays
      have outside : (tracker.extendShell? token).isNone :=
        (Bool.and_eq_true_iff.mp (Bool.and_eq_true_iff.mp placed).1).1
      have supplies : tracker.suppliesTasks token = ((tracker.readyFor token).needsList token &&
          (tracker.readyFor token).nesting.play.isSome &&
            (tracker.readyFor token).nesting.taskSection.isNone) := by
        rw [suppliesTasks, placesTask, placed, tracker.play_readyFor, Bool.true_and,
          Bool.and_comm tracker.nesting.play.isSome]
      obtain ⟨lines, short, out⟩ := ((tracker.readyFor token).listStep_place noMarker noHeader).out
      refine ⟨lines, short, ?_⟩
      rw [push_of_isPlaced placed, out, tracker.out_readyFor, writtenBefore, if_pos outside,
        supplied, supplies]
  | false =>
      have silent : tracker.suppliesTasks token = false := by
        simp [suppliesTasks, placesTask, placed]
      rw [silent, if_neg (by simp), List.append_nil]
      exact (push_of_not_isPlaced placed).2.2

/-- The key is supplied before a task that finds no list of tasks, or leaves it by its column. -/
theorem suppliesTasks_iff :
    tracker.suppliesTasks token ↔ tracker.placesTask token ∧
      (tracker.leavesByColumn token ∨ tracker.nesting.taskSection = none) := by
  unfold suppliesTasks leavesByColumn
  rw [Bool.and_eq_true]
  refine and_congr_right fun _ => ?_
  rcases tracker.taskSection_readyFor token with same | isNone
  · rw [same]
    cases tracker.nesting.taskSection <;> simp
  · rw [isNone]
    cases tracker.nesting.taskSection <;> simp

/-- The list of tasks is opened or left by a line with which its key is written. -/
theorem opensList_or_leavesList_of_writesTasks (writes : tracker.writesTasks token) :
    tracker.nesting.play.isSome ∧ tracker.endsPlay token = false ∧
      (tracker.opensList token ∨ tracker.leavesList token) := by
  rcases Bool.or_eq_true_iff.mp writes with supplies | keyed
  · have places := (Bool.and_eq_true_iff.mp supplies).1
    obtain ⟨_, inPlay, _, noMarker, noHeader⟩ := placesTask_cases places
    exact ⟨inPlay, by simp [endsPlay, noMarker, noHeader], .inl (by simp [opensList, places])⟩
  · obtain ⟨⟨⟨placed, inPlay⟩, role⟩, _⟩ : ((tracker.isPlaced token ∧
        tracker.nesting.play.isSome) ∧ token.role = .playAttribute) ∧ _ := by
      simpa using keyed
    refine ⟨inPlay, by simp [endsPlay, role], ?_⟩
    cases opens : tracker.opensList token with
    | true => exact .inl rfl
    | false =>
        refine .inr ?_
        simp [leavesList, endsList, placed, opens, tracker.play_readyFor, inPlay, role]

/-- A key `tasks` of the play is among what is written with a line that writes one. -/
theorem out_push_of_writesTasks (writes : tracker.writesTasks token) :
    ∃ line lines, suppliedTasks <+: line ∧
      (tracker.push token).out = tracker.writtenBefore token ++ line :: lines := by
  rcases Bool.or_eq_true_iff.mp writes with supplies | keyed
  · obtain ⟨lines, _, out⟩ := out_push (opensList_or_leavesList_of_writesTasks writes).2.1
    rw [if_pos supplies, List.append_assoc] at out
    exact ⟨suppliedTasks, lines, List.prefix_rfl, out⟩
  · obtain ⟨⟨⟨placed, inPlay⟩, role⟩, hasKey⟩ : ((tracker.isPlaced token ∧
        tracker.nesting.play.isSome) ∧ token.role = .playAttribute) ∧
          token.key = some "tasks".toList := by
      simpa using keyed
    have text : ∃ rest, indented playKeyColumn token.keyedText = suppliedTasks ++ rest := by
      unfold LineToken.keyedText
      rw [hasKey]
      dsimp only [Option.getD_some]
      split
      · exact ⟨[], rfl⟩
      · exact ⟨_, rfl⟩
    have outside : (tracker.extendShell? token).isNone :=
      (Bool.and_eq_true_iff.mp (Bool.and_eq_true_iff.mp placed).1).1
    have written : (tracker.push token).out =
        tracker.writtenBefore token ++ [indented playKeyColumn token.keyedText] := by
      have isOpen : ¬ (tracker.readyFor token).nesting.play.isNone := by
        rw [tracker.play_readyFor]
        simpa [Option.isSome_iff_ne_none] using inPlay
      rw [push_of_isPlaced placed, place, role, writtenBefore, if_pos outside,
        ← tracker.out_readyFor token]
      dsimp only
      rw [pushPlayAttribute, if_neg isOpen]
      split <;> rfl
    exact ⟨_, [], ⟨_, text.choose_spec.symm⟩, written⟩

end Tracker

end PlaybookRepair
