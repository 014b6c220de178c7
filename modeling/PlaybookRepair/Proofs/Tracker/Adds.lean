import PlaybookRepair.Tracker

/-!
# What a step leaves alone

Between two shell blocks the tracker only ever writes lines after those it has written. `Adds` says
so of two of its states: the later one has some more lines at its end, it has the same shell block
open, no report is withdrawn, and a shell block that it remembers was remembered before. Steps that
add lines compose, so what a line of the source adds is read off the steps that place it.
-/

namespace PlaybookRepair.Tracker

open Catalog (isTaskSection)

/-- The later tracker has the given lines in addition; nothing else that was written, reported,
opened or remembered has changed, except that the remembered shell block may be forgotten. -/
structure Adds (before after : Tracker) (lines : List Text) : Prop where
  mode : after.mode = before.mode
  kind : after.kind = before.kind
  out : after.out = before.out ++ lines
  shell : after.nesting.shell = before.nesting.shell
  reopened : after.reopened = before.reopened
  reports : before.ambiguities <+: after.ambiguities
  remembers : ∀ block placement, after.openAction = some (.shell block placement) →
    before.openAction = some (.shell block placement)

theorem Adds.refl (tracker : Tracker) : Adds tracker tracker [] where
  mode := rfl
  kind := rfl
  out := (List.append_nil _).symm
  shell := rfl
  reopened := rfl
  reports := List.prefix_rfl
  remembers := fun _ _ remembered => remembered

theorem Adds.trans {first second third : Tracker} {lines more : List Text}
    (earlier : Adds first second lines) (later : Adds second third more) :
    Adds first third (lines ++ more) where
  mode := later.mode.trans earlier.mode
  kind := later.kind.trans earlier.kind
  out := by rw [later.out, earlier.out, List.append_assoc]
  shell := later.shell.trans earlier.shell
  reopened := later.reopened.trans earlier.reopened
  reports := earlier.reports.trans later.reports
  remembers := fun block placement remembered =>
    earlier.remembers block placement (later.remembers block placement remembered)

/-- Steps that write nothing come before a step without a trace in the lines. -/
theorem Adds.after_silent {first second third : Tracker} {lines : List Text}
    (silent : Adds first second []) (later : Adds second third lines) : Adds first third lines :=
  silent.trans later

/-- A state that differs only in what is open, with the same or no task, adds nothing. -/
theorem adds_withNesting (tracker : Tracker) (nesting : Nesting)
    (shell : nesting.shell = tracker.nesting.shell)
    (task : nesting.task = tracker.nesting.task ∨ nesting.task = none) :
    Adds tracker (tracker.withNesting nesting) [] where
  mode := rfl
  kind := rfl
  out := (List.append_nil _).symm
  shell := shell
  reopened := rfl
  reports := List.prefix_rfl
  remembers := by
    intro block placement remembered
    rcases task with same | closed
    · simpa only [openAction, withNesting, same] using remembered
    · simp [openAction, withNesting, closed] at remembered

theorem adds_emitLine (tracker : Tracker) (line : Text) :
    Adds tracker (tracker.emitLine line) [line] where
  mode := rfl
  kind := rfl
  out := rfl
  shell := rfl
  reopened := rfl
  reports := List.prefix_rfl
  remembers := fun _ _ remembered => remembered

theorem adds_emit (tracker : Tracker) (column : Nat) (text : Text) :
    Adds tracker (tracker.emit column text) [indented column text] :=
  tracker.adds_emitLine _

theorem adds_note (tracker : Tracker) (token : LineToken) (reason : AmbiguityReason) :
    Adds tracker (tracker.note token reason) [] where
  mode := rfl
  kind := rfl
  out := (List.append_nil _).symm
  shell := rfl
  reopened := rfl
  reports := List.prefix_append _ _
  remembers := fun _ _ remembered => remembered

theorem adds_withPendingDash (tracker : Tracker) (pendingDash : Bool) :
    Adds tracker { tracker with pendingDash } [] where
  mode := rfl
  kind := rfl
  out := (List.append_nil _).symm
  shell := rfl
  reopened := rfl
  reports := List.prefix_rfl
  remembers := fun _ _ remembered => remembered

theorem adds_withLastKeyColumn (tracker : Tracker) (lastKeyColumn : Option Nat) :
    Adds tracker { tracker with lastKeyColumn } [] where
  mode := rfl
  kind := rfl
  out := (List.append_nil _).symm
  shell := rfl
  reopened := rfl
  reports := List.prefix_rfl
  remembers := fun _ _ remembered => remembered

/-- An action that is no shell block makes the tracker forget the one it remembers. -/
theorem adds_withTaskAction (tracker : Tracker) {action : Option TaskAction}
    (noShell : ∀ block placement, action ≠ some (.shell block placement)) :
    Adds tracker { tracker with taskAction := action } [] where
  mode := rfl
  kind := rfl
  out := (List.append_nil _).symm
  shell := rfl
  reopened := rfl
  reports := List.prefix_rfl
  remembers := by
    intro block placement remembered
    simp only [openAction] at remembered
    split at remembered
    · exact (noShell block placement remembered).elim
    · cases remembered

theorem adds_closeKey (tracker : Tracker) : Adds tracker tracker.closeKey [] :=
  tracker.adds_withNesting _ rfl (.inl rfl)

theorem adds_closeTask (tracker : Tracker) : Adds tracker tracker.closeTask [] :=
  (tracker.adds_withNesting { tracker.nesting with task := none } rfl (.inr rfl)).trans
    (adds_withPendingDash _ false)

theorem adds_closeTasks (tracker : Tracker) :
    Adds tracker { tracker with nesting := tracker.nesting.closeTasks, pendingDash := false } [] :=
  (tracker.adds_withNesting tracker.nesting.closeTasks rfl (.inr rfl)).trans
    (adds_withPendingDash _ false)

theorem adds_openSection (tracker : Tracker) (column sourceIndent : Nat) :
    Adds tracker
      { tracker with
        lastKeyColumn := some column
        nesting := { tracker.nesting with taskSection := some sourceIndent } } [] :=
  (tracker.adds_withLastKeyColumn (some column)).trans
    (adds_withNesting _ { tracker.nesting with taskSection := some sourceIndent } rfl (.inl rfl))

theorem adds_afterKey (tracker : Tracker) (token : LineToken) (column : Nat) :
    Adds tracker (tracker.afterKey token column) [] :=
  (tracker.adds_withLastKeyColumn (some column)).trans (adds_withNesting _ _ rfl (.inl rfl))

theorem adds_emitKey (tracker : Tracker) (token : LineToken) (column : Nat) :
    Adds tracker (tracker.emitKey token column) [indented column token.keyedText] :=
  (tracker.adds_emit _ _).trans (adds_afterKey _ _ _)

theorem adds_emitHeader (tracker : Tracker) (token : LineToken) (column : Nat) :
    Adds tracker (tracker.emitHeader token column)
      [indented column (listItemText token.keyedText)] :=
  (tracker.adds_emit _ _).trans (adds_afterKey _ _ _)

/-- A line of a task stands where the keys of tasks do, or after the list marker of its task. -/
theorem adds_emitTaskLine (tracker : Tracker) (text : Text) :
    Adds tracker (tracker.emitTaskLine text) [indented taskKeyColumn text] ∨
      Adds tracker (tracker.emitTaskLine text) [indented taskColumn (listItemText text)] := by
  unfold emitTaskLine
  split
  · right
    exact (tracker.adds_withPendingDash false).after_silent (adds_emit _ _ _)
  · left
    exact tracker.adds_emit _ _

theorem adds_emitTaskKey (tracker : Tracker) (token : LineToken) :
    Adds tracker (tracker.emitTaskKey token) [indented taskKeyColumn token.keyedText] ∨
      Adds tracker (tracker.emitTaskKey token)
        [indented taskColumn (listItemText token.keyedText)] := by
  rcases tracker.closeKey.adds_emitTaskLine token.keyedText with written | written
  · left
    exact (tracker.adds_closeKey.after_silent written).trans (adds_afterKey _ _ _)
  · right
    exact (tracker.adds_closeKey.after_silent written).trans (adds_afterKey _ _ _)

/-! ## Supplied lines -/

/-- The key of a list of tasks that the source lacks. -/
def suppliedTasks : Text := indented playKeyColumn "tasks:".toList

/-- The lines are at most the key of a list of tasks that the source lacks. -/
def AreSupplied (lines : List Text) : Prop := lines = [] ∨ lines = [suppliedTasks]

theorem adds_openTask (tracker : Tracker) (sourceIndent : Nat) :
    Adds tracker (tracker.openTask sourceIndent) [] where
  mode := rfl
  kind := rfl
  out := (List.append_nil _).symm
  shell := rfl
  reopened := rfl
  reports := List.prefix_rfl
  remembers := by
    intro block placement remembered
    simp [openAction, openTask] at remembered

theorem adds_ensureTaskSection (tracker : Tracker) (sourceIndent : Nat) :
    ∃ supplied, AreSupplied supplied ∧
      Adds tracker (tracker.ensureTaskSection sourceIndent) supplied := by
  unfold ensureTaskSection
  split
  · exact ⟨_, .inr rfl, (tracker.adds_emit _ _).trans (adds_withNesting _ _ rfl (.inl rfl))⟩
  · exact ⟨_, .inl rfl, .refl tracker⟩

theorem adds_ensureTask (tracker : Tracker) (keyIndent : Nat) :
    ∃ supplied, AreSupplied supplied ∧ Adds tracker (tracker.ensureTask keyIndent) supplied := by
  unfold ensureTask
  split
  · exact ⟨_, .inl rfl, .refl tracker⟩
  · obtain ⟨supplied, isSupplied, added⟩ := tracker.adds_ensureTaskSection (keyIndent - indentStep)
    refine ⟨supplied, isSupplied, ?_⟩
    have opened := (added.trans (adds_openTask _ (keyIndent - indentStep))).trans
      (adds_withPendingDash _ true)
    simpa only [List.append_nil] using opened

/-! ## Leaving sections -/

theorem adds_leaveKey (tracker : Tracker) (token : LineToken) :
    Adds tracker (tracker.leaveKey token) [] := by
  unfold leaveKey
  split
  · exact .refl tracker
  · exact tracker.adds_closeKey

theorem adds_closeByDedent (tracker : Tracker) (token : LineToken) :
    Adds tracker (tracker.closeByDedent token) [] := by
  unfold closeByDedent
  split
  · exact .refl tracker
  · have left : Adds tracker (if tracker.leavesTask token then tracker.closeTask else tracker)
        [] := by
      split
      · exact tracker.adds_closeTask
      · exact .refl tracker
    dsimp only
    generalize (if tracker.leavesTask token then tracker.closeTask else tracker) = leaving at left ⊢
    split
    · exact left.trans (adds_withNesting _ _ rfl (.inl rfl))
    · exact left

end PlaybookRepair.Tracker
