import PlaybookRepair.Proofs.Outline.Standing

/-!
# Roles and the outline

A line that is placed by its role keeps the outline of the document (`Tracker.Outlined.place`), as
long as it has been classified in the state in which it is placed: in a playbook the header of a task
comes in a play, and in a list of tasks there is no header of a play (`Tracker.Suits`).
-/

namespace PlaybookRepair.Tracker

open Outline

variable {source done : List LineToken} {part : Part} {tracker : Tracker} {token : LineToken}

/-- The document is laid out, with a key above the next line of a task; a shell block is open in a
task or, outside of plays, where no task may be. -/
structure Outlined (source done : List LineToken) (tracker : Tracker) : Prop where
  laid : Laid source done tracker
  inTask : tracker.nesting.task.isSome → tracker.nesting.shell = none →
    tracker.lastKeyColumn.isSome
  gathering : ∀ block, tracker.nesting.shell = some block →
    tracker.nesting.task.isSome ∨ ¬ tracker.atTaskPosition ∧ block.key.StartsKey

theorem Outlined.concat (outlined : Outlined source done tracker) (token : LineToken) :
    Outlined source (done ++ [token]) tracker :=
  { outlined with laid := outlined.laid.concat token }

theorem Laid.outlined (laid : Laid source done tracker) (noShell : tracker.nesting.shell = none)
    (last : tracker.nesting.task.isSome → tracker.lastKeyColumn.isSome) :
    Outlined source done tracker where
  laid := laid
  inTask inTask _ := last inTask
  gathering block isOpen := by
    rw [noShell] at isOpen
    cases isOpen

/-- The line has been classified where it is placed: in a playbook only a play has tasks, and only a
playbook has plays. -/
structure Suits (tracker : Tracker) (token : LineToken) : Prop where
  taskHeader : ∀ dashed, token.role = .taskHeader dashed → tracker.atTaskPosition
  playHeader : token.role = .playHeader → tracker.kind = .playbook

/-! ## Beginning a task -/

theorem shell_ensureTaskSection (tracker : Tracker) (sourceIndent : Nat) :
    (tracker.ensureTaskSection sourceIndent).nesting.shell = tracker.nesting.shell := by
  obtain ⟨_, _, adds⟩ := tracker.adds_ensureTaskSection sourceIndent
  exact adds.shell

theorem shell_ensureTask (tracker : Tracker) (keyIndent : Nat) :
    (tracker.ensureTask keyIndent).nesting.shell = tracker.nesting.shell := by
  obtain ⟨_, _, adds⟩ := tracker.adds_ensureTask keyIndent
  exact adds.shell

theorem shell_emitTaskKey (tracker : Tracker) (token : LineToken) :
    (tracker.emitTaskKey token).nesting.shell = tracker.nesting.shell := by
  rcases tracker.adds_emitTaskKey token with adds | adds <;> exact adds.shell

/-- The tracker without an open task and an open key. -/
theorem Laid.leaveTaskAndKey (laid : Laid source done tracker) (pendingDash : Bool) :
    Laid source done
      { tracker with
        nesting := { tracker.nesting with task := none, openKey := none }, pendingDash } :=
  laid.leaveTask _ pendingDash rfl id (fun inSection => ⟨inSection, rfl⟩) (.inr rfl)

/-- A line with a list marker begins a task in the list of tasks that is open, or in a supplied
one. -/
theorem Laid.beginItem (laid : Laid source done tracker) (noTask : tracker.nesting.task = none)
    (position : tracker.atTaskPosition) (sourceIndent : Nat) {line : Text}
    (isItem : IsTaskItem line) :
    ∃ part, Written source done ((tracker.ensureTaskSection sourceIndent).emitLine line) part ∧
      Frame part (tracker.ensureTaskSection sourceIndent) ∧
      Keys part (tracker.ensureTaskSection sourceIndent) ∧ part.HoldsTasks ∧ part.IsStarted := by
  obtain ⟨play, _, hasSection⟩ := tracker.ensureTaskSection_nesting sourceIndent
  obtain ⟨part, written, frame, keys⟩ := laid.ensureTaskSection noTask sourceIndent
  have holdsTasks := frame.holdsTasks (atTaskPosition_ensureTaskSection position sourceIndent)
    (play ▸ hasSection)
  refine ⟨part.afterItem, written.emitLine (.item holdsTasks isItem), frame.afterItem,
    keys.move ?_ part.isStarted_afterItem, holdsTasks.afterItem, part.isStarted_afterItem⟩
  rintro rfl
  rfl

/-- A task that has begun with a line of its own is open. -/
theorem Frame.openTask (frame : Frame part tracker) (position : tracker.atTaskPosition)
    (holdsTasks : part.HoldsTasks) (isStarted : part.IsStarted) (sourceIndent : Nat) :
    Frame part (tracker.openTask sourceIndent) :=
  { frame with
    task := fun _ => ⟨position, holdsTasks⟩
    pending := fun isEmpty => (isStarted isEmpty).elim
    remembered := nofun }

theorem not_atTaskPosition (cannotHold : ¬ tracker.canHoldTask) : ¬ tracker.atTaskPosition := by
  intro position
  apply cannotHold
  rw [canHoldTask, position, Bool.or_true]

section

variable (laid : Laid source done tracker) (noShell : tracker.nesting.shell = none)
include laid noShell

/-! ## Headers and keys -/

theorem Laid.pushPlayHeader (isPlaybook : tracker.kind = .playbook) (member : token ∈ source)
    (isHeader : token.role = .playHeader) : Outlined source done (tracker.pushPlayHeader token) := by
  obtain ⟨part, written, frame, _⟩ := laid
  have inPlaybook : part.InPlaybook := by
    rcases frame.home with ⟨_, inPlaybook⟩ | ⟨isList, _⟩
    · exact inPlaybook
    · rw [isPlaybook] at isList
      cases isList
  have notIncremental : tracker.mode ≠ .incremental :=
    fun incremental => inPlaybook true (frame.started incremental)
  have follows : Follows tracker.mode source part
      { text := indented playColumn (listItemText token.keyedText) } .play :=
    .header inPlaybook ⟨token, member, isHeader, rfl⟩
  have opened : Frame .play { tracker with
      nesting := { tracker.nesting.reset with play := some token.indent }, pendingDash := false } :=
    { home := .inl ⟨isPlaybook, nofun⟩
      started := fun incremental => (notIncremental incremental).elim
      play := fun _ => .inl rfl
      taskSection := nofun
      task := nofun
      pending := nofun
      remembered := nofun
      reopened := fun placement reopened => ⟨(frame.reopened placement reopened).1, nofun⟩ }
  exact Laid.outlined ⟨.play, written.emitLine follows, { opened with }, keys_afterKey _ token
    (.inr ⟨nofun, Nat.le_refl _, fun incremental => (notIncremental incremental).elim⟩)⟩
    noShell nofun

theorem Laid.pushTaskHeader (position : tracker.atTaskPosition) (token : LineToken) :
    Outlined source done (tracker.pushTaskHeader token) := by
  unfold Tracker.pushTaskHeader
  dsimp only
  generalize (if token.dashed then token.indent else token.indent - indentStep) = sourceIndent
  generalize closed : tracker.withNesting { tracker.nesting with
    task := none, openKey := none } = ready
  have readyLaid : Laid source done ready := closed ▸ laid.leaveTaskAndKey tracker.pendingDash
  have noTask : ready.nesting.task = none := by rw [← closed]; rfl
  have readyPosition : ready.atTaskPosition := by rw [← closed]; exact position
  have readyShell : ready.nesting.shell = none := by rw [← closed]; exact noShell
  obtain ⟨part, written, frame, _, holdsTasks, isStarted⟩ :=
    readyLaid.beginItem noTask readyPosition sourceIndent (isTaskItem_indented token.keyedText)
  have opened := frame.openTask (atTaskPosition_ensureTaskSection readyPosition sourceIndent)
    holdsTasks isStarted sourceIndent
  refine Laid.outlined ⟨part, written, ?_, keys_afterKey _ token (keyStands_task isStarted)⟩
    ((shell_ensureTaskSection _ _).trans readyShell) fun _ => rfl
  exact { opened with pending := fun isEmpty => (isStarted isEmpty).elim }

/-- A key of a task that is open or may be opened. -/
theorem Laid.emitTaskKey_of_task (inTask : tracker.nesting.task.isSome) (token : LineToken) :
    Outlined source done (tracker.emitTaskKey token) :=
  (laid.emitTaskKey inTask token).outlined ((shell_emitTaskKey _ _).trans noShell) fun _ => rfl

theorem Laid.ensureTask_emitTaskKey (canHold : tracker.canHoldTask) (token : LineToken) :
    Outlined source done ((tracker.ensureTask token.indent).emitTaskKey token) := by
  obtain ⟨ensured, inTask⟩ := laid.ensureTask canHold token.indent
  exact ensured.emitTaskKey_of_task ((shell_ensureTask _ _).trans noShell) inTask token

variable (startsKey : token.keyedText.StartsKey)
include startsKey

theorem Laid.pushMisplaced (reason : AmbiguityReason) :
    Outlined source done (tracker.pushMisplaced token reason) := by
  have noted := laid.note token reason
  unfold Tracker.pushMisplaced
  dsimp only
  split
  · next inPlay =>
      exact (noted.closeTasks.emitKey_play inPlay rfl rfl startsKey).outlined noShell fun _ => rfl
  · split
    · next canHold => exact noted.ensureTask_emitTaskKey noShell canHold token
    · next cannotHold =>
        exact (noted.emitKey_outside (not_atTaskPosition cannotHold) startsKey).outlined noShell
          fun _ => rfl

theorem Laid.pushPlayAttribute (member : token ∈ source) (isKeyword : token.role = .playAttribute) :
    Outlined source done (tracker.pushPlayAttribute token) := by
  unfold Tracker.pushPlayAttribute
  split
  · exact laid.pushMisplaced noShell startsKey _
  · next inPlay =>
      have isSome : tracker.nesting.play.isSome :=
        Option.isSome_iff_ne_none.mpr (mt Option.isNone_iff_eq_none.mpr inPlay)
      dsimp only
      split
      · next opens =>
          simp only [Bool.and_eq_true, Bool.not_eq_true'] at opens
          obtain ⟨⟨isSection, opensBlock⟩, noIndicator⟩ := opens
          obtain ⟨part, written, frame, keys⟩ := laid.closeTasks
          have inPlay := frame.play isSome
          have opener : IsSectionKey source (indented playKeyColumn token.keyedText) :=
            .inr ⟨token, member, isKeyword, isSection, opensBlock, by simp [noIndicator], rfl⟩
          have opened := frame.openSection isSome rfl token.indent
          refine Laid.outlined ⟨.tasks, written.emitLine
            (.opener inPlay (isPlayKey_indented startsKey) opener), { opened with }, ?_⟩ noShell nofun
          exact ⟨fun column last => .inr ⟨nofun, Nat.le_of_eq (Option.some.inj last)⟩, nofun⟩
      · exact (laid.closeTasks.emitKey_play isSome rfl rfl startsKey).outlined noShell fun _ => rfl

theorem Laid.pushTaskAttribute : Outlined source done (tracker.pushTaskAttribute token) := by
  unfold Tracker.pushTaskAttribute
  split
  · next inTask => exact laid.emitTaskKey_of_task noShell inTask token
  · exact laid.pushMisplaced noShell startsKey _

theorem Laid.pushKeyValue : Outlined source done (tracker.pushKeyValue token) := by
  unfold Tracker.pushKeyValue
  split
  · next inTask => exact laid.emitTaskKey_of_task noShell inTask token
  · next noTask =>
      have isNone : tracker.nesting.task = none := by simpa using noTask
      split
      · next canHold =>
          exact laid.ensureTask_emitTaskKey noShell (Bool.and_eq_true_iff.mp canHold).2 token
      · next elsewhere =>
          obtain ⟨part, _, frame, _⟩ := id laid
          by_cases position : tracker.atTaskPosition
          · have noAction : ¬ tracker.atActionPosition := by
              intro action
              rw [action, canHoldTask, position, Bool.or_true] at elsewhere
              exact elsewhere rfl
            rw [atActionPosition, Bool.or_eq_true, not_or] at noAction
            -- A list of tasks takes any key as an action, so this is a play without a list.
            rcases frame.home with ⟨isPlaybook, _⟩ | ⟨isList, noPlay, _⟩
            · have inPlay : tracker.nesting.play.isSome := by
                rwa [atTaskPosition, isPlaybook] at position
              have noSection : tracker.nesting.taskSection = none := by simpa using noAction.1
              rw [if_pos inPlay]
              exact (laid.emitKey_play inPlay isNone noSection startsKey).outlined noShell
                fun _ => rfl
            · rw [noPlay, isList] at noAction
              exact (noAction.2 rfl).elim
          · obtain ⟨_, noPlay, _⟩ := frame.outside_of_not_position position
            rw [if_neg (by simp [noPlay])]
            exact (laid.emitKey_outside position startsKey).outlined noShell fun _ => rfl

end

/-! ## Shell blocks -/

/-- A block opens in a task, or outside of plays. -/
theorem Laid.openShell (laid : Laid source done tracker) (token : LineToken) {block : ShellBlock}
    (startsKey : block.key.StartsKey) : Outlined source done (tracker.openShell token block) := by
  unfold Tracker.openShell
  dsimp only
  split
  · next canHold =>
      obtain ⟨⟨part, written, frame, keys⟩, inTask⟩ := laid.closeKey.ensureTask canHold token.indent
      exact ⟨⟨part, written, { frame with }, keys.narrow rfl (.inl rfl) (.inl rfl)⟩, nofun,
        fun _ _ => .inl inTask⟩
  · next cannotHold =>
      obtain ⟨part, written, frame, keys⟩ := laid.closeKey.note token .shellOutsideTask
      refine ⟨⟨part, written, { frame with }, keys.narrow rfl (.inl rfl) (.inl rfl)⟩, nofun, ?_⟩
      intro opened isOpen
      obtain rfl := Option.some.inj isOpen
      exact .inr ⟨not_atTaskPosition cannotHold, startsKey⟩

/-- The tracker after it has forgotten what its task runs. -/
theorem Laid.forgetAction (laid : Laid source done tracker) :
    Laid source done { tracker with taskAction := none } := by
  obtain ⟨part, written, frame, keys⟩ := laid
  refine ⟨part, written, { frame with remembered := ?_ }, keys.narrow rfl (.inl rfl) (.inl rfl)⟩
  intro block placement remembered
  simp [openAction] at remembered

theorem Laid.openFragment (laid : Laid source done tracker) (token : LineToken) :
    Outlined source done (tracker.openFragment token) := by
  have startsKey := ShellBlock.startsKey_ofFragment token
  unfold Tracker.openFragment
  dsimp only
  split
  · next block placement remembered =>
      have inTask := task_isSome_of_openAction remembered
      obtain ⟨part, written, frame, keys⟩ := laid
      refine ⟨⟨part, written, ?_, keys.narrow rfl (.inl rfl) (.inr rfl)⟩, nofun,
        fun _ _ => .inl inTask⟩
      exact { frame with
        remembered := by
          intro other place remembered
          simp [openAction] at remembered
        reopened := fun other isPlace =>
          Option.some.inj isPlace ▸ frame.remembered block placement remembered }
  · exact (laid.forgetAction.note token _).closeTask.openShell token startsKey
  · exact laid.forgetAction.openShell token startsKey

theorem Laid.pushModule (laid : Laid source done tracker)
    (noShell : tracker.nesting.shell = none) (classified : token.Classified)
    (hasKey : token.key.isSome) : Outlined source done (tracker.pushModule token) := by
  unfold Tracker.pushModule
  split
  · exact laid.openShell token classified.startsKey_ofModule
  · split
    · next canHold =>
        have outlined := laid.ensureTask_emitTaskKey noShell canHold token
        obtain ⟨part, written, frame, keys⟩ := outlined.laid
        refine { outlined with
          laid := ⟨part, written, { frame with remembered := ?_ },
            keys.narrow rfl (.inl rfl) (.inl rfl)⟩ }
        intro block placement remembered
        simp [openAction] at remembered
    · exact laid.pushMisplaced noShell (classified.startsKey_keyedText hasKey) _

/-! ## Lines without a key of their own -/

/-- A line below the last key of its part. -/
theorem Written.emit_below {part : Part} {column : Nat} {text : Text}
    (written : Written source done tracker part)
    (stands : part = .outside ∧ 0 < column ∨ part.IsStarted ∧ taskKeyColumn ≤ column) :
    Written source done (tracker.emit column text) part := by
  rcases stands with ⟨rfl, moved⟩ | ⟨isStarted, deep⟩
  · exact written.emitLine (.outside (not_isTopItem_indented moved text))
  · exact written.emitLine (.inner isStarted (isInner_indented deep text))

section

variable (laid : Laid source done tracker)
include laid

/-- Copies stand in lists of tasks only. -/
theorem Laid.emit_copy {line : Text} (incremental : tracker.mode = .incremental)
    (isCopy : IsCopy token line) : Laid source (done ++ [token]) (tracker.emitLine line) := by
  obtain ⟨part, written, frame, keys⟩ := laid
  obtain rfl := frame.started incremental
  exact ⟨_, written.copy (.copy incremental isCopy), { frame with },
    keys.narrow rfl (.inl rfl) (.inl rfl)⟩

theorem Laid.copyLine (isCopy : token.role = .comment ∨ token.role = .continuation) :
    Laid source (done ++ [token]) (tracker.copyLine token) := by
  unfold Tracker.copyLine
  split
  · next incremental => exact laid.emit_copy incremental (.inl ⟨isCopy, rfl⟩)
  · exact laid.concat token

theorem Laid.pushDocumentMarker (isMarker : token.role = .documentMarker) :
    Laid source (done ++ [token]) (tracker.pushDocumentMarker token) := by
  have closed : Laid source done
      { tracker with
        nesting := tracker.nesting.reset, lastKeyColumn := none, pendingDash := false } := by
    obtain ⟨part, written, frame, keys⟩ := laid
    have left := frame.leaveTask tracker.nesting.reset false rfl nofun nofun
    exact ⟨part, written, { left with }, keys.narrow rfl (.inr rfl) (.inr rfl)⟩
  unfold Tracker.pushDocumentMarker
  dsimp only
  split
  · next incremental => exact closed.emit_copy incremental (.inr ⟨isMarker, rfl⟩)
  · exact closed.concat token

/-- A line that continues what came before stands below the last key, or is copied if it is a
continuation. -/
theorem Laid.pushContinuation
    (isCopy : tracker.mode = .incremental → tracker.lastKeyColumn = none →
      token.role = .continuation) :
    Laid source (done ++ [token]) (tracker.pushContinuation token) := by
  unfold Tracker.pushContinuation
  split
  · next column last =>
      obtain ⟨part, written, frame, keys⟩ := laid.concat token
      refine ⟨part, written.emit_below ?_, { frame with }, keys.narrow rfl (.inl rfl) (.inl rfl)⟩
      refine (keys.last column last).imp (fun outside => ⟨outside, Nat.succ_pos _⟩)
        fun ⟨isStarted, deep⟩ => ⟨isStarted, Nat.add_le_add_right deep indentStep⟩
  · next noKey =>
      by_cases incremental : tracker.mode = .incremental
      · exact laid.copyLine (.inr (isCopy incremental noKey))
      · rw [Tracker.copyLine, if_neg incremental]
        exact laid.concat token

end

/-- What opens no task and leaves the last key alone keeps the outline outside of shell blocks. -/
theorem Outlined.keep {now : List LineToken} {after : Tracker}
    (outlined : Outlined source done tracker) (noShell : tracker.nesting.shell = none)
    (laid : Laid source now after) (shell : after.nesting.shell = tracker.nesting.shell)
    (task : after.nesting.task.isSome → tracker.nesting.task.isSome)
    (last : after.lastKeyColumn = tracker.lastKeyColumn) : Outlined source now after :=
  laid.outlined (shell.trans noShell) fun inTask => last ▸ outlined.inTask (task inTask) noShell

theorem copyLine_state (tracker : Tracker) (token : LineToken) :
    (tracker.copyLine token).nesting = tracker.nesting ∧
      (tracker.copyLine token).lastKeyColumn = tracker.lastKeyColumn := by
  unfold copyLine
  split <;> exact ⟨rfl, rfl⟩

theorem pushContinuation_state (tracker : Tracker) (token : LineToken) :
    (tracker.pushContinuation token).nesting = tracker.nesting ∧
      (tracker.pushContinuation token).lastKeyColumn = tracker.lastKeyColumn := by
  unfold pushContinuation
  split
  · exact ⟨rfl, rfl⟩
  · exact tracker.copyLine_state token

/-- A line with a list marker is written with it. -/
theorem isTaskItem_nestedText (dashed : token.dashed) :
    IsTaskItem (indented taskColumn token.nestedText) := by
  unfold LineToken.nestedText
  rw [dashed]
  cases token.key with
  | some key => exact isTaskItem_indented _
  | none =>
      dsimp only
      split
      · decide
      · exact isTaskItem_indented _

section

variable (outlined : Outlined source done tracker) (noShell : tracker.nesting.shell = none)
include outlined noShell

theorem Outlined.pushContinuation
    (isCopy : tracker.mode = .incremental → tracker.lastKeyColumn = none →
      token.role = .continuation) :
    Outlined source (done ++ [token]) (tracker.pushContinuation token) := by
  obtain ⟨nesting, last⟩ := tracker.pushContinuation_state token
  exact outlined.keep noShell (outlined.laid.pushContinuation isCopy) (by rw [nesting])
    (by rw [nesting]; exact id) last

theorem Outlined.note (token : LineToken) (reason : AmbiguityReason) :
    Outlined source done (tracker.note token reason) :=
  outlined.keep noShell (outlined.laid.note token reason) rfl id rfl

theorem Outlined.pushUnplaced (isContinuation : token.role = .continuation) :
    Outlined source (done ++ [token]) (tracker.pushUnplaced token) := by
  unfold Tracker.pushUnplaced
  split
  · exact outlined.pushContinuation noShell fun _ _ => isContinuation
  · exact (outlined.note noShell token _).pushContinuation noShell fun _ _ => isContinuation

theorem Outlined.pushListItem (dashed : token.dashed) :
    Outlined source (done ++ [token]) (tracker.pushListItem token) := by
  unfold Tracker.pushListItem
  split
  · next isNew =>
      have position := (Bool.and_eq_true_iff.mp isNew).1
      generalize closed : ({ tracker with
        nesting := { tracker.nesting with task := none, openKey := none }
        pendingDash := false } : Tracker) = ready
      have readyLaid : Laid source done ready := closed ▸ outlined.laid.leaveTaskAndKey false
      have noTask : ready.nesting.task = none := by rw [← closed]
      have readyPosition : ready.atTaskPosition := by rw [← closed]; exact position
      have readyShell : ready.nesting.shell = none := by rw [← closed]; exact noShell
      have ensuredShell := (shell_ensureTaskSection ready token.indent).trans readyShell
      obtain ⟨part, written, frame, keys, holdsTasks, isStarted⟩ :=
        readyLaid.beginItem noTask readyPosition token.indent (isTaskItem_nestedText dashed)
      refine Outlined.concat ?_ token
      dsimp only
      split
      · have opened := frame.openTask (atTaskPosition_ensureTaskSection readyPosition token.indent)
          holdsTasks isStarted token.indent
        exact Laid.outlined ⟨part, written, { opened with },
          keys_afterKey _ token (keyStands_task isStarted)⟩ ensuredShell fun _ => rfl
      · refine Laid.outlined ⟨part, written, { frame with }, ?_⟩ ensuredShell fun _ => rfl
        exact { keys with
          last := fun column last => .inr ⟨isStarted, Nat.le_of_eq (Option.some.inj last)⟩ }
  · next elsewhere =>
      refine (outlined.note noShell token _).pushContinuation noShell ?_
      intro incremental noKey
      obtain ⟨part, _, frame, _⟩ := outlined.laid
      obtain rfl := frame.started incremental
      have position : tracker.atTaskPosition := by
        rcases frame.home with ⟨_, inPlaybook⟩ | ⟨isList, _⟩
        · exact (inPlaybook true rfl).elim
        · rw [atTaskPosition, isList]
      have inTask : tracker.nesting.task.isSome := by
        by_contra noTask
        simp [position, Option.not_isSome_iff_eq_none.mp noTask] at elsewhere
      have hasKey := outlined.inTask inTask noShell
      rw [show tracker.lastKeyColumn = none from noKey] at hasKey
      cases hasKey

/-- A line that is placed by its role keeps the outline. -/
theorem Outlined.place (classified : token.Classified) (hasContent : token.content ≠ [])
    (member : token ∈ source) (suits : Suits tracker token) :
    Outlined source (done ++ [token]) (tracker.place token) := by
  have fits := classified.fits
  have laid := outlined.laid
  unfold Tracker.place
  cases role : token.role with
  | blank => exact (hasContent (classified.role_eq_blank_iff.mp role)).elim
  | comment =>
      obtain ⟨nesting, last⟩ := tracker.copyLine_state token
      exact outlined.keep noShell (laid.copyLine (.inl role)) (by rw [nesting])
        (by rw [nesting]; exact id) last
  | documentMarker =>
      refine (laid.pushDocumentMarker role).outlined ?_ ?_
      · dsimp only [Tracker.pushDocumentMarker]
        split <;> exact noShell
      · dsimp only [Tracker.pushDocumentMarker]
        split <;> nofun
  | playHeader => exact (laid.pushPlayHeader noShell (suits.playHeader role) member role).concat token
  | taskHeader dashed => exact (laid.pushTaskHeader noShell (suits.taskHeader dashed role) token).concat token
  | playAttribute =>
      rw [role] at fits
      exact (laid.pushPlayAttribute noShell (classified.startsKey_keyedText fits) member role).concat token
  | taskAttribute =>
      rw [role] at fits
      exact (laid.pushTaskAttribute noShell (classified.startsKey_keyedText fits)).concat token
  | moduleInvocation =>
      rw [role] at fits
      exact (laid.pushModule noShell classified (Option.isSome_of_any fits)).concat token
  | shellFragment family => exact (laid.openFragment token).concat token
  | keyValue =>
      rw [role] at fits
      exact (laid.pushKeyValue noShell (classified.startsKey_keyedText fits)).concat token
  | listItem =>
      rw [role] at fits
      exact outlined.pushListItem noShell fits
  | continuation => exact outlined.pushUnplaced noShell role

end

end PlaybookRepair.Tracker
