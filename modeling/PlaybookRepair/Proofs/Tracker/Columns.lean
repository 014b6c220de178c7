import PlaybookRepair.Proofs.Tracker.Push
import PlaybookRepair.WrittenLine

/-!
# Columns of written lines

`Tracker.pushedLines` says which lines the tracker writes for one line of the source and to which
columns they are moved. That these are the lines is `Places`, with one lemma for each way in which a
line is placed: what has been written afterwards is what had been written before and these lines.

Every column is computed from one that the tracker remembers: that of the last key, of the open key,
of a key among its nested lines, or of a shell block that may be opened again. In an `Aligned`
tracker these are columns of keys, at most two steps from the left edge, and every step keeps it so.
Lines that are placed by their role are then at most three steps from the left edge. In the canonical
mode all others are at most five, and in the incremental mode they are at most three steps further
right than their source (`stands_pushedLines`, `column_pushedLines_le`).
-/

namespace PlaybookRepair

/-! ## Levels -/

/-- The column is a level of the document, at most the given number of steps from its left edge. -/
def OnLevel (deepest column : Nat) : Prop :=
  column ≤ indentStep * deepest ∧ indentStep ∣ column

theorem OnLevel.add {deepest column : Nat} (onLevel : OnLevel deepest column) (more : Nat) :
    OnLevel (deepest + more) column :=
  ⟨Nat.le_trans onLevel.1 (Nat.mul_le_mul_left _ (Nat.le_add_right _ more)), onLevel.2⟩

/-- One step further right is one level deeper. -/
theorem OnLevel.deeper {deepest column : Nat} (onLevel : OnLevel deepest column) :
    OnLevel (deepest + 1) (column + indentStep) :=
  ⟨Nat.add_le_add_right onLevel.1 indentStep, Nat.dvd_add onLevel.2 (Nat.dvd_refl _)⟩

section

variable {deepest : Nat}

theorem onLevel_zero : OnLevel deepest 0 := ⟨Nat.zero_le _, Nat.dvd_zero _⟩

theorem onLevel_playKeyColumn : OnLevel (deepest + 1) playKeyColumn := onLevel_zero.deeper

theorem onLevel_taskColumn : OnLevel (deepest + 1) taskColumn := onLevel_playKeyColumn

theorem onLevel_taskKeyColumn : OnLevel (deepest + 2) taskKeyColumn := onLevel_taskColumn.deeper

end

/-- The keys of every section stand on a level. -/
theorem onLevel_keyColumn (nesting : Nesting) : OnLevel 2 nesting.keyColumn := by
  unfold Nesting.keyColumn
  split
  · exact onLevel_taskKeyColumn
  · exact onLevel_playKeyColumn
  · exact onLevel_playKeyColumn
  · exact onLevel_zero

/-- The line is moved to a level; only the incremental mode writes lines as they are. -/
def WrittenLine.Stands (mode : RebuildMode) (deepest : Nat) : WrittenLine → Prop
  | moved column _ => OnLevel deepest column
  | asIs _ => mode = .incremental

theorem WrittenLine.Stands.add {mode : RebuildMode} {deepest : Nat} {line : WrittenLine}
    (stands : line.Stands mode deepest) (more : Nat) : line.Stands mode (deepest + more) := by
  cases line with
  | moved column text => exact OnLevel.add stands more
  | asIs line => exact stands

/-- A line on a level is moved no further than the level. -/
theorem WrittenLine.Stands.column_le {mode : RebuildMode} {deepest column : Nat}
    {line : WrittenLine} (stands : line.Stands mode deepest)
    (isColumn : line.column? = some column) : column ≤ indentStep * deepest := by
  cases line with
  | moved column text =>
      cases isColumn
      exact stands.1
  | asIs line => cases isColumn

namespace Tracker

/-- The columns that the tracker remembers are those of keys; in the canonical mode a key among the
nested lines of an open key stands at most two steps further right. -/
structure Aligned (tracker : Tracker) : Prop where
  lastKey : ∀ column, tracker.lastKeyColumn = some column → OnLevel 2 column
  openKey : ∀ key, tracker.nesting.openKey = some key → OnLevel 2 key.depth
  innerKey : tracker.mode = .canonical → ∀ key inner, tracker.nesting.openKey = some key →
    key.innerLiteral = some inner → OnLevel 4 inner.depth
  remembered : ∀ block placement, tracker.taskAction = some (.shell block placement) →
    OnLevel 2 placement.depth
  reopened : ∀ placement, tracker.reopened = some placement → OnLevel 2 placement.depth

theorem aligned_start (mode : RebuildMode) (kind : FileKind) : Aligned (start mode kind) where
  lastKey := nofun
  openKey := nofun
  innerKey := nofun
  remembered := nofun
  reopened := nofun

/-- The later tracker has written the given lines after those of the earlier one. If the earlier one
is aligned, so is the later one, and the lines stand where lines are placed by their role. -/
structure Places (before after : Tracker) (lines : List WrittenLine) : Prop where
  mode : after.mode = before.mode
  out : after.out = before.out ++ lines.map WrittenLine.text
  aligned : before.Aligned → after.Aligned
  stands : before.Aligned → ∀ line ∈ lines, line.Stands before.mode 3

theorem Places.trans {first second third : Tracker} {lines more : List WrittenLine}
    (earlier : Places first second lines) (later : Places second third more) :
    Places first third (lines ++ more) where
  mode := later.mode.trans earlier.mode
  out := by rw [later.out, earlier.out, List.map_append, List.append_assoc]
  aligned := fun aligned => later.aligned (earlier.aligned aligned)
  stands := fun aligned line member => by
    rcases List.mem_append.mp member with written | written
    · exact earlier.stands aligned line written
    · rw [← earlier.mode]
      exact later.stands (earlier.aligned aligned) line written

/-- Steps that write nothing come before a step without a trace in the lines. -/
theorem Places.after_silent {first second third : Tracker} {lines : List WrittenLine}
    (silent : Places first second []) (later : Places second third lines) :
    Places first third lines :=
  silent.trans later

/-- Steps that write nothing come after a step without a trace in the lines. -/
theorem Places.then_silent {first second third : Tracker} {lines : List WrittenLine}
    (earlier : Places first second lines) (silent : Places second third []) :
    Places first third lines := by
  have both := earlier.trans silent
  rwa [List.append_nil] at both

/-- A step that writes nothing and remembers no other column. -/
theorem places_silent {before after : Tracker} (mode : after.mode = before.mode)
    (out : after.out = before.out)
    (lastKey : after.lastKeyColumn = before.lastKeyColumn ∨ after.lastKeyColumn = none)
    (openKey : after.nesting.openKey = before.nesting.openKey ∨ after.nesting.openKey = none)
    (action : after.taskAction = before.taskAction ∨
      ∀ block placement, after.taskAction ≠ some (.shell block placement))
    (reopened : after.reopened = before.reopened) : Places before after [] where
  mode := mode
  out := by rw [out, List.map_nil, List.append_nil]
  aligned := fun aligned =>
    { lastKey := fun column isLast => by
        rcases lastKey with same | isNone
        · exact aligned.lastKey column (same ▸ isLast)
        · rw [isNone] at isLast
          cases isLast
      openKey := fun key isOpen => by
        rcases openKey with same | isNone
        · exact aligned.openKey key (same ▸ isOpen)
        · rw [isNone] at isOpen
          cases isOpen
      innerKey := fun canonical key inner isOpen => by
        rcases openKey with same | isNone
        · exact aligned.innerKey (mode ▸ canonical) key inner (same ▸ isOpen)
        · rw [isNone] at isOpen
          cases isOpen
      remembered := fun block placement isAction => by
        rcases action with same | noShell
        · exact aligned.remembered block placement (same ▸ isAction)
        · exact (noShell block placement isAction).elim
      reopened := fun placement isReopened =>
        aligned.reopened placement (reopened ▸ isReopened) }
  stands := fun _ line member => nomatch member

theorem Places.refl (tracker : Tracker) : Places tracker tracker [] :=
  places_silent rfl rfl (.inl rfl) (.inl rfl) (.inl rfl) rfl

variable (tracker : Tracker) (token : LineToken)

theorem places_emit {column : Nat} (onLevel : OnLevel 3 column) (text : Text) :
    Places tracker (tracker.emit column text) [.moved column text] where
  mode := rfl
  out := rfl
  aligned := fun aligned => { aligned with }
  stands := fun _ line member => by
    cases List.mem_singleton.mp member
    exact onLevel

theorem places_emitLine (incremental : tracker.mode = .incremental) (line : Text) :
    Places tracker (tracker.emitLine line) [.asIs line] where
  mode := rfl
  out := rfl
  aligned := fun aligned => { aligned with }
  stands := fun _ written member => by
    cases List.mem_singleton.mp member
    exact incremental

theorem places_withLastKeyColumn {column : Nat} (onLevel : OnLevel 2 column) :
    Places tracker { tracker with lastKeyColumn := some column } [] where
  mode := rfl
  out := (List.append_nil _).symm
  aligned := fun aligned =>
    { aligned with
      lastKey := fun last isLast => by
        cases isLast
        exact onLevel }
  stands := fun _ line member => nomatch member

theorem places_note (reason : AmbiguityReason) : Places tracker (tracker.note token reason) [] :=
  places_silent rfl rfl (.inl rfl) (.inl rfl) (.inl rfl) rfl

theorem places_withPendingDash (pendingDash : Bool) :
    Places tracker { tracker with pendingDash } [] :=
  places_silent rfl rfl (.inl rfl) (.inl rfl) (.inl rfl) rfl

theorem places_closeKey : Places tracker tracker.closeKey [] :=
  places_silent rfl rfl (.inl rfl) (.inr rfl) (.inl rfl) rfl

theorem places_closeTask : Places tracker tracker.closeTask [] :=
  places_silent rfl rfl (.inl rfl) (.inl rfl) (.inl rfl) rfl

theorem places_closeTasks :
    Places tracker { tracker with nesting := tracker.nesting.closeTasks, pendingDash := false } [] :=
  places_silent rfl rfl (.inl rfl) (.inr rfl) (.inl rfl) rfl

theorem places_openTask (sourceIndent : Nat) : Places tracker (tracker.openTask sourceIndent) [] :=
  places_silent rfl rfl (.inl rfl) (.inl rfl) (.inr nofun) rfl

/-- A key that has been written at a level is the last one, and perhaps open. -/
theorem places_afterKey {column : Nat} (onLevel : OnLevel 2 column) :
    Places tracker (tracker.afterKey token column) [] where
  mode := rfl
  out := (List.append_nil _).symm
  aligned := fun aligned =>
    { aligned with
      lastKey := fun last isLast => by
        cases isLast
        exact onLevel
      openKey := fun key isOpen => by
        simp only [afterKey] at isOpen
        split at isOpen
        · cases isOpen
          exact onLevel
        · cases isOpen
      innerKey := fun _ key inner isOpen isInner => by
        simp only [afterKey] at isOpen
        split at isOpen
        · cases isOpen
          cases isInner
        · cases isOpen }
  stands := fun _ line member => nomatch member

/-! ## Keys -/

theorem places_emitKey {column : Nat} (onLevel : OnLevel 2 column) :
    Places tracker (tracker.emitKey token column) [.moved column token.keyedText] :=
  (tracker.places_emit (onLevel.add 1) _).then_silent (places_afterKey _ token onLevel)

theorem places_emitHeader {column : Nat} (onLevel : OnLevel 1 column) :
    Places tracker (tracker.emitHeader token column)
      [.moved column (listItemText token.keyedText)] :=
  (tracker.places_emit (onLevel.add 2) _).then_silent
    (places_afterKey _ token onLevel.deeper)

theorem places_emitTaskLine (text : Text) :
    Places tracker (tracker.emitTaskLine text) [tracker.taskLine text] := by
  unfold emitTaskLine taskLine
  split
  · exact (tracker.places_withPendingDash false).after_silent
      (places_emit _ onLevel_taskColumn _)
  · exact tracker.places_emit onLevel_taskKeyColumn _

theorem places_emitTaskKey :
    Places tracker (tracker.emitTaskKey token) [tracker.taskLine token.keyedText] :=
  (tracker.places_closeKey.after_silent (places_emitTaskLine _ _)).then_silent
    (places_afterKey _ token onLevel_taskKeyColumn)

/-! ## Tasks -/

theorem places_ensureTaskSection (sourceIndent : Nat) :
    Places tracker (tracker.ensureTaskSection sourceIndent) tracker.sectionLines := by
  unfold ensureTaskSection sectionLines
  split
  · exact (tracker.places_emit onLevel_playKeyColumn _).then_silent
      (places_silent rfl rfl (.inl rfl) (.inl rfl) (.inl rfl) rfl)
  · exact .refl tracker

theorem places_ensureTask (keyIndent : Nat) :
    Places tracker (tracker.ensureTask keyIndent) tracker.taskLines := by
  unfold ensureTask taskLines
  split
  · exact .refl tracker
  · have opened := (tracker.places_ensureTaskSection (keyIndent - indentStep)).then_silent
      (places_openTask _ (keyIndent - indentStep))
    exact opened.then_silent (places_withPendingDash _ true)

/-- A key of a task stands in the open task, or in one that is opened for it. -/
theorem places_taskKey :
    Places tracker ((tracker.ensureTask token.indent).emitTaskKey token)
      (tracker.taskKeyLines token) :=
  (tracker.places_ensureTask token.indent).trans (places_emitTaskKey _ token)

theorem places_openShell (block : ShellBlock) :
    Places tracker (tracker.openShell token block) tracker.shellTaskLines := by
  have opened (ready : Tracker) :
      Places ready (ready.withNesting { ready.nesting with shell := some block }) [] :=
    places_silent rfl rfl (.inl rfl) (.inl rfl) (.inl rfl) rfl
  have closed := tracker.places_closeKey
  unfold openShell shellTaskLines
  dsimp only
  rw [show tracker.closeKey.canHoldTask = tracker.canHoldTask from rfl]
  split
  · exact (closed.after_silent (places_ensureTask _ token.indent)).then_silent (opened _)
  · exact (closed.after_silent (places_note _ token _)).then_silent (opened _)

/-- A line of a script opens a shell block or goes on with one, which keeps its place. -/
theorem places_openFragment :
    Places tracker (tracker.openFragment token) tracker.fragmentLines := by
  have forgotten : Places tracker { tracker with taskAction := none } [] :=
    places_silent rfl rfl (.inl rfl) (.inl rfl) (.inr nofun) rfl
  unfold openFragment fragmentLines
  cases action : tracker.openAction with
  | none => exact forgotten.after_silent (places_openShell _ token _)
  | some taskAction =>
      cases taskAction with
      | other =>
          exact ((forgotten.after_silent (places_note _ token _)).after_silent
            (places_closeTask _)).after_silent (places_openShell _ token _)
      | shell block placement =>
          exact
            { mode := rfl
              out := (List.append_nil _).symm
              aligned := fun aligned =>
                { aligned with
                  openKey := nofun
                  innerKey := nofun
                  remembered := nofun
                  reopened := fun place isReopened => by
                    cases isReopened
                    rw [openAction] at action
                    split at action
                    · exact aligned.remembered block _ action
                    · cases action }
              stands := fun _ line member => nomatch member }

/-! ## Lines by their role -/

theorem places_copyLine : Places tracker (tracker.copyLine token) (tracker.copiedLines token) := by
  unfold copyLine copiedLines
  split
  · next incremental => exact tracker.places_emitLine incremental _
  · exact .refl tracker

theorem places_pushDocumentMarker :
    Places tracker (tracker.pushDocumentMarker token) (tracker.markerLines token) := by
  have closed : Places tracker
      { tracker with
        nesting := tracker.nesting.reset, lastKeyColumn := none, pendingDash := false } [] :=
    places_silent rfl rfl (.inr rfl) (.inr rfl) (.inl rfl) rfl
  unfold pushDocumentMarker markerLines
  dsimp only
  split
  · next incremental =>
      refine closed.after_silent (places_emitLine _ ?_ _)
      exact incremental
  · exact closed

theorem places_pushPlayHeader : Places tracker (tracker.pushPlayHeader token)
    [.moved playColumn (listItemText token.keyedText)] := by
  have reset : Places tracker
      { tracker with
        nesting := { tracker.nesting.reset with play := some token.indent }
        pendingDash := false } [] :=
    places_silent rfl rfl (.inl rfl) (.inr rfl) (.inl rfl) rfl
  exact reset.after_silent (places_emitHeader _ token onLevel_zero)

theorem places_pushTaskHeader : Places tracker (tracker.pushTaskHeader token)
    (tracker.sectionLines ++ [.moved taskColumn (listItemText token.keyedText)]) := by
  unfold pushTaskHeader
  dsimp only
  generalize (if token.dashed then token.indent else token.indent - indentStep) = sourceIndent
  have closed : Places tracker
      (tracker.withNesting { tracker.nesting with task := none, openKey := none }) [] :=
    places_silent rfl rfl (.inl rfl) (.inr rfl) (.inl rfl) rfl
  have opened := ((closed.after_silent (places_ensureTaskSection _ sourceIndent)).then_silent
    (places_openTask _ sourceIndent)).then_silent (places_withPendingDash _ false)
  exact opened.trans (places_emitHeader _ token onLevel_taskColumn)

/-- A report does not matter for the lines of a key. -/
theorem taskKeyLines_note (reason : AmbiguityReason) :
    (tracker.note token reason).taskKeyLines token = tracker.taskKeyLines token := by
  unfold taskKeyLines ensureTask
  rw [show (tracker.note token reason).nesting = tracker.nesting from rfl]
  split
  · rfl
  · rfl

theorem places_pushMisplaced (reason : AmbiguityReason) :
    Places tracker (tracker.pushMisplaced token reason) (tracker.misplacedLines token) := by
  have noted := tracker.places_note token reason
  unfold pushMisplaced misplacedLines
  dsimp only
  rw [show (tracker.note token reason).nesting = tracker.nesting from rfl,
    show (tracker.note token reason).canHoldTask = tracker.canHoldTask from rfl]
  split
  · exact (noted.after_silent (places_closeTasks _)).after_silent
      (places_emitKey _ token onLevel_playKeyColumn)
  · split
    · rw [← tracker.taskKeyLines_note token reason]
      exact noted.after_silent (places_taskKey _ token)
    · exact noted.after_silent (places_emitKey _ token onLevel_zero)

theorem places_pushPlayAttribute :
    Places tracker (tracker.pushPlayAttribute token)
      (if tracker.nesting.play.isNone then tracker.misplacedLines token
        else [.moved playKeyColumn token.keyedText]) := by
  unfold pushPlayAttribute
  split
  · exact tracker.places_pushMisplaced token _
  · dsimp only
    split
    · have written := tracker.places_closeTasks.after_silent
        (places_emit _ onLevel_playKeyColumn token.keyedText)
      exact (written.then_silent (places_withLastKeyColumn _ onLevel_playKeyColumn)).then_silent
        (places_silent rfl rfl (.inl rfl) (.inl rfl) (.inl rfl) rfl)
    · exact tracker.places_closeTasks.after_silent
        (places_emitKey _ token onLevel_playKeyColumn)

/-- In an open task nothing is supplied for a key. -/
theorem places_emitTaskKey_of_task (inTask : tracker.nesting.task.isSome) :
    Places tracker (tracker.emitTaskKey token) (tracker.taskKeyLines token) := by
  have written := tracker.places_taskKey token
  rwa [ensureTask, if_pos inTask] at written

theorem places_pushTaskAttribute :
    Places tracker (tracker.pushTaskAttribute token)
      (if tracker.nesting.task.isSome then tracker.taskKeyLines token
        else tracker.misplacedLines token) := by
  unfold pushTaskAttribute
  split
  · next inTask => exact tracker.places_emitTaskKey_of_task token inTask
  · exact tracker.places_pushMisplaced token _

theorem places_pushModule :
    Places tracker (tracker.pushModule token) (tracker.moduleLines token) := by
  unfold pushModule moduleLines
  split
  · exact tracker.places_openShell token _
  · split
    · exact (tracker.places_taskKey token).then_silent
        (places_silent rfl rfl (.inl rfl) (.inl rfl) (.inr nofun) rfl)
    · exact tracker.places_pushMisplaced token _

theorem places_pushKeyValue :
    Places tracker (tracker.pushKeyValue token) (tracker.keyValueLines token) := by
  unfold pushKeyValue keyValueLines
  by_cases inTask : tracker.nesting.task.isSome
  · rw [if_pos inTask, if_pos (by rw [inTask, Bool.true_or])]
    exact tracker.places_emitTaskKey_of_task token inTask
  · rw [if_neg inTask, Bool.eq_false_iff.mpr inTask, Bool.false_or]
    split
    · exact tracker.places_taskKey token
    · refine tracker.places_emitKey token ?_
      split
      · exact onLevel_playKeyColumn
      · exact onLevel_zero

/-- A continuation stands one step right of the last key. -/
theorem places_pushContinuation :
    Places tracker (tracker.pushContinuation token) (tracker.continuationLines token) := by
  unfold pushContinuation continuationLines
  cases isLast : tracker.lastKeyColumn with
  | none => exact tracker.places_copyLine token
  | some column =>
      exact
        { mode := rfl
          out := rfl
          aligned := fun aligned => { aligned with }
          stands := fun aligned line member => by
            cases List.mem_singleton.mp member
            exact (aligned.lastKey column isLast).deeper }

theorem places_pushUnplaced :
    Places tracker (tracker.pushUnplaced token) (tracker.continuationLines token) := by
  unfold pushUnplaced
  split
  · exact tracker.places_pushContinuation token
  · exact (tracker.places_note token _).after_silent (places_pushContinuation _ token)

theorem places_pushListItem :
    Places tracker (tracker.pushListItem token) (tracker.listItemLines token) := by
  unfold pushListItem listItemLines
  split
  · dsimp only
    have closed : Places tracker
        { tracker with
          nesting := { tracker.nesting with task := none, openKey := none }
          pendingDash := false } [] :=
      places_silent rfl rfl (.inl rfl) (.inr rfl) (.inl rfl) rfl
    have item := (closed.after_silent (places_ensureTaskSection _ token.indent)).trans
      (places_emit _ onLevel_taskColumn token.nestedText)
    split
    · exact (item.then_silent (places_openTask _ token.indent)).then_silent
        (places_afterKey _ token onLevel_taskKeyColumn)
    · exact item.then_silent (places_withLastKeyColumn _ onLevel_taskColumn)
  · exact (tracker.places_note token _).after_silent (places_pushContinuation _ token)

/-- A line that is placed by its role is written as `placedLines` says. -/
theorem places_place : Places tracker (tracker.place token) (tracker.placedLines token) := by
  unfold place placedLines
  cases token.role with
  | blank => exact .refl tracker
  | comment => exact tracker.places_copyLine token
  | documentMarker => exact tracker.places_pushDocumentMarker token
  | playHeader => exact tracker.places_pushPlayHeader token
  | taskHeader dashed => exact tracker.places_pushTaskHeader token
  | playAttribute => exact tracker.places_pushPlayAttribute token
  | taskAttribute => exact tracker.places_pushTaskAttribute token
  | moduleInvocation => exact tracker.places_pushModule token
  | shellFragment family => exact tracker.places_openFragment token
  | keyValue => exact tracker.places_pushKeyValue token
  | listItem => exact tracker.places_pushListItem token
  | continuation => exact tracker.places_pushUnplaced token

theorem places_closeByDedent : Places tracker (tracker.closeByDedent token) [] := by
  unfold closeByDedent
  split
  · exact .refl tracker
  · have leftTask : Places tracker (if tracker.leavesTask token then tracker.closeTask else tracker)
        [] := by
      split
      · exact tracker.places_closeTask
      · exact .refl tracker
    refine leftTask.after_silent ?_
    dsimp only
    generalize (if tracker.leavesTask token then tracker.closeTask else tracker) = left
    split
    · exact places_silent rfl rfl (.inl rfl) (.inl rfl) (.inl rfl) rfl
    · exact .refl left

/-- What a line leaves has nothing to do with columns. -/
theorem places_leave : Places tracker (tracker.leave token) [] := by
  have leftKey : Places tracker (tracker.leaveKey token) [] := by
    unfold leaveKey
    split
    · exact .refl tracker
    · exact tracker.places_closeKey
  unfold leave
  dsimp only
  split
  · exact leftKey.after_silent (places_closeByDedent _ token)
  · exact leftKey

end Tracker

end PlaybookRepair
