import PlaybookRepair.Proofs.Rebuild.Rejoining
import PlaybookRepair.Proofs.Tracker.Coherent

/-!
# The state of a run

Between two lines of a run the pieces of the tracker's state agree with each other
(`coherent_trackerAfter`), and a shell block that is remembered in the open task is a block of that
task: the same task has been open since a line started it (`OpenTask.task_eq`), the block was
gathered from lines since then, and it was written below everything that had been written before.
The main statement is `state_coherent`.
-/

namespace PlaybookRepair.Rebuild

variable {mode : RebuildMode} {kind : FileKind} {before rest : List LineToken} {first : LineToken}

/-- The pieces of the state agree after any lines. -/
theorem coherent_trackerAfter (mode : RebuildMode) (kind : FileKind) (lines : List LineToken) :
    (trackerAfter mode kind lines).Coherent := by
  induction lines using List.reverseRecOn with
  | nil => exact Tracker.coherent_start mode kind
  | append_singleton lines token ih =>
      rw [trackerAfter_concat]
      exact ih.push token

/-- A task that is open has been so, as the same task, since the line that has started it. -/
theorem OpenTask.task_eq (openTask : OpenTask mode kind before first rest)
    (inTask : (trackerAfter mode kind (before ++ first :: rest)).nesting.task.isSome) :
    ∀ done later, rest = done ++ later →
      (trackerAfter mode kind (before ++ first :: done)).nesting.task =
        (trackerAfter mode kind (before ++ first :: rest)).nesting.task := by
  induction rest using List.reverseRecOn with
  | nil =>
      intro done later split
      obtain ⟨rfl, rfl⟩ := List.append_eq_nil_iff.mp split.symm
      rfl
  | append_singleton rest next ih =>
      have concat : before ++ first :: (rest ++ [next]) = before ++ first :: rest ++ [next] := by
        rw [List.append_assoc, List.cons_append]
      have noStart := openTask.goesOn rest next [] rfl
      have kept : (trackerAfter mode kind (before ++ first :: (rest ++ [next]))).nesting.task =
          (trackerAfter mode kind (before ++ first :: rest)).nesting.task := by
        have step := (trackerAfter mode kind (before ++ first :: rest)).taskStep_push next
        rw [Tracker.TaskStep, if_neg noStart, Tracker.task_flushShell, ← trackerAfter_concat,
          ← concat] at step
        apply step.resolve_right
        intro isNone
        rw [isNone] at inTask
        cases inTask
      have earlier : OpenTask mode kind before first rest :=
        ⟨openTask.starts, fun done token later split =>
          openTask.goesOn done token (later ++ [next]) (by rw [split]; simp)⟩
      intro done later split
      obtain rfl | ⟨init, last, rfl⟩ := List.eq_nil_or_concat later
      · rw [List.append_nil] at split
        rw [split]
      · rw [List.concat_eq_append, ← List.append_assoc] at split
        obtain ⟨same, -⟩ := List.append_inj' split rfl
        rw [kept] at inTask ⊢
        exact ih earlier inTask done init same

/-- The shell block comes from the task that a line after the earlier ones has started: the task has
been open ever since, no other one has started, the block was gathered from its lines, and the lines
at the place are those of the block, below all lines that were written before the task. -/
structure WrittenByTask (mode : RebuildMode) (kind : FileKind) (before : List LineToken)
    (first : LineToken) (rest : List LineToken) (block : ShellBlock) (placement : Placement) :
    Prop where
  openTask : OpenTask mode kind before first rest
  sameTask : ∀ done later, rest = done ++ later →
    (trackerAfter mode kind (before ++ first :: done)).nesting.task =
      (trackerAfter mode kind (before ++ first :: rest)).nesting.task
  gathered : block.ComesFrom (first :: rest)
  below : (trackerAfter mode kind before).flushShell.out.length ≤ placement.start
  within : placement.start + placement.length ≤
    (trackerAfter mode kind (before ++ first :: rest)).out.length
  lines : ((trackerAfter mode kind (before ++ first :: rest)).out.drop placement.start).take
    placement.length = Tracker.shellLines mode block placement

/-- **The state between two lines.** After any number of lines of a text the pieces of the tracker's
state agree with each other, and a shell block that is remembered while a task is open has been
written by that task. -/
theorem state_coherent (mode : RebuildMode) (kind : FileKind) (text : Text) (count : Nat) :
    let done := (tokens mode kind text).take count
    let tracker := trackerAfter mode kind done
    tracker.Coherent ∧
      ∀ block placement, tracker.nesting.task.isSome →
        tracker.taskAction = some (.shell block placement) →
        ∃ before first rest, done = before ++ first :: rest ∧
          WrittenByTask mode kind before first rest block placement := by
  intro done tracker
  refine ⟨coherent_trackerAfter mode kind done, fun block placement inTask action => ?_⟩
  have split : tokens mode kind text = done ++ (tokens mode kind text).drop count :=
    (List.take_append_drop count _).symm
  have remembered : tracker.openAction = some (.shell block placement) := by
    rw [Tracker.openAction, if_pos inTask]
    exact action
  obtain ⟨before, first, rest, same, openTask, isMode, comes, above, below, spans⟩ :=
    holds_of_remembered mode kind text split (.inl rfl) remembered
  have isTracker : tracker = trackerAfter mode kind (before ++ first :: rest) := by
    rw [← same]
  rw [isMode] at spans
  refine ⟨before, first, rest, same, ?_⟩
  exact
    { openTask := openTask
      sameTask := openTask.task_eq (isTracker ▸ inTask)
      gathered := comes
      below := by
        rw [spans.start, List.length_append]
        exact Nat.le_add_right _ _
      within := isTracker ▸ spans.le_length
      lines := isTracker ▸ spans.slice }

/-- A line of a script without a task opens one, whose list marker is pending until the script is
written. -/
example :
    let tokens := tokens .canonical .taskList "dnf install foo\nregister: out\n".toList
    let first := trackerAfter .canonical .taskList (tokens.take 1)
    let second := trackerAfter .canonical .taskList (tokens.take 2)
    first.pendingDash ∧ second.taskAction = some (.shell
      { key := "shell".toList
        indicator := "|".toList
        startIndent := 0
        explicit := false
        inline := none
        body := [⟨0, "dnf install foo".toList⟩]
        pendingBlanks := 0 }
      { start := 1, length := 2, depth := 4, dashed := true }) := by
  decide +kernel

end PlaybookRepair.Rebuild
