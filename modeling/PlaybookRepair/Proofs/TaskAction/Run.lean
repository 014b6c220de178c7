import PlaybookRepair.Proofs.TaskAction.Step

/-!
# Lines of a script after an action

A line of a script that comes after the action of its task gives the task no second action. If the
action is a shell block, the line joins that block; after any other module it starts a task of its
own, whose list marker its block carries (`Rebuild.fragment_after_action`). A module on a list item
that has opened the task is not noticed, however: after it a line of a script is written as a second
action (`Rebuild.fragment_after_item`).
-/

namespace PlaybookRepair

namespace Tracker

/-- What a task records above a floor it records above a higher one. -/
theorem InTask.raise {floor other : List Text} {tracker : Tracker} (inTask : InTask floor tracker)
    (covers : tracker.nesting.shell = none → tracker.out.length ≤ other.length) :
    InTask other tracker :=
  { inTask with
    unrecorded := fun noShell _ line member => by
      rw [List.drop_eq_nil_of_le (covers noShell)] at member
      cases member }

/-- A line of a script goes on with the shell block of its task: with the one that is open, or with
the one that is remembered, which is opened again and is to be written at its place. -/
inductive Joins (tracker : Tracker) (token : LineToken) (after : Tracker) : Prop
  | absorbed (block : ShellBlock) (isOpen : tracker.nesting.shell = some block)
      (shell : after.nesting.shell = some (block.push token)) (out : after.out = tracker.out)
      (task : after.nesting.task = tracker.nesting.task)
  | rejoined (block : ShellBlock) (placement : Placement)
      (remembered : tracker.flushShell.openAction = some (.shell block placement))
      (shell : after.nesting.shell = some (block.reopen.push token))
      (place : after.shellPlacement = placement) (out : after.out = tracker.flushShell.out)
      (task : after.nesting.task = tracker.nesting.task)

/-- A line of a script starts a task: it opens a block that is to be written after everything else,
with the list marker of the task. -/
structure StartsWithScript (tracker : Tracker) (token : LineToken) (after : Tracker) : Prop where
  starts : tracker.startsTask token
  task : after.nesting.task.isSome
  shell : after.nesting.shell = some (.ofFragment token)
  atEnd : after.shellPlacement.start = after.out.length ∧ after.shellPlacement.length = 0
  dashed : after.shellPlacement.dashed

/-- A shell block that opens where no task is open gets a task of its own. -/
theorem openShell_of_noTask {tracker : Tracker} (noTask : tracker.nesting.task = none)
    (position : tracker.atTaskPosition) (fresh : tracker.reopened = none) (token : LineToken)
    (block : ShellBlock) :
    (tracker.openShell token block).nesting.task.isSome ∧
      (tracker.openShell token block).nesting.shell = some block ∧
      (tracker.openShell token block).pendingDash ∧
      (tracker.openShell token block).reopened = none := by
  have canHold : tracker.closeKey.canHoldTask := by
    rw [canHoldTask, Bool.or_eq_true]
    exact .inr position
  have isNone : ¬ tracker.closeKey.nesting.task.isSome := by
    change ¬ tracker.nesting.task.isSome
    rw [noTask]
    exact Bool.false_ne_true
  have reopened : (tracker.closeKey.ensureTask token.indent).reopened = none := by
    obtain ⟨_, _, adds⟩ := tracker.closeKey.adds_ensureTask token.indent
    exact adds.reopened.trans fresh
  unfold openShell
  dsimp only
  rw [if_pos canHold]
  refine ⟨?_, rfl, ?_, reopened⟩
  · rw [ensureTask, if_neg isNone]
    rfl
  · rw [ensureTask, if_neg isNone]
    rfl

end Tracker

namespace Rebuild

/-- The lines that do not count when the action of the open task is looked for: those that were
written before the task, and the list item itself if one has opened the task. -/
def floor (mode : RebuildMode) (kind : FileKind) (before : List LineToken) (first : LineToken) :
    List Text :=
  if first.role = .listItem then (trackerAfter mode kind (before ++ [first])).out
  else (trackerAfter mode kind before).flushShell.out

section

variable {mode : RebuildMode} {kind : FileKind} {text : Text} {before rest done later : List LineToken}
  {first token : LineToken}

theorem OpenTask.prefix (openTask : OpenTask mode kind before first (rest ++ [token])) :
    OpenTask mode kind before first rest where
  starts := openTask.starts
  goesOn done next later same := openTask.goesOn done next (later ++ [token]) (by simp [same])

/-- In a playbook the header of a task comes in a play. -/
theorem play_of_taskHeader (split : tokens mode kind text = done ++ token :: later) (dashed : Bool)
    (isHeader : token.role = .taskHeader dashed)
    (isPlaybook : (trackerAfter mode kind done).kind = .playbook) :
    (trackerAfter mode kind done).nesting.play.isSome := by
  obtain ⟨previous, owns, same⟩ := tokensFrom_split split
  have role : token.role = Role.ofFacts (.ofLine token.line)
      ((trackerAfter mode kind done).surroundings previous owns) := congrArg LineToken.role same
  rw [role] at isHeader
  exact Role.playOpen_of_taskHeader isHeader isPlaybook

variable (mode kind text)

/-- **The action of the open task in a run.** After any part of the lines, what the open task runs is
recorded if a line above its floor shows it. -/
theorem inTask_run : ∀ done later, tokens mode kind text = done ++ later →
    (trackerAfter mode kind done).nesting.task.isSome →
    ∀ before first rest, done = before ++ first :: rest → OpenTask mode kind before first rest →
      Tracker.InTask (floor mode kind before first) (trackerAfter mode kind done) := by
  refine invariant mode kind text (fun _ _ _ _ none => by simp at none) ?_
  intro done token later split ih isOpen before first rest same openTask
  have classified : token.Classified :=
    classified_of_mem (split ▸ List.mem_append_right _ List.mem_cons_self)
  have fresh := reopened_flushShell mode kind text split
  have play := play_of_taskHeader split
  rw [trackerAfter_concat] at isOpen ⊢
  rcases List.eq_nil_or_concat rest with rfl | ⟨earlier, last, rfl⟩
  · -- The line starts the task: what was recorded before is below the floor.
    obtain ⟨rfl, isFirst⟩ := List.append_inj' same rfl
    obtain rfl := List.singleton_inj.mp isFirst
    have absorbs : (trackerAfter mode kind done).extendShell? token = none := by
      have starts := openTask.starts
      simp only [Tracker.startsTask, Bool.and_eq_true, Option.isNone_iff_eq_none] at starts
      exact starts.1.1.1
    have covered : (trackerAfter mode kind done).flushShell.out.length ≤
        (floor mode kind done token).length := by
      unfold floor
      split
      · rw [trackerAfter_concat]
        rcases (trackerAfter mode kind done).push_absorbs_or_flushes classified with
          ⟨_, absorbed, _⟩ | ⟨_, _, _, kept⟩
        · rw [absorbs] at absorbed
          cases absorbed
        · exact kept.length_le
      · exact le_rfl
    refine Tracker.inTask_push (fun wasOpen => ?_) classified fresh play (fun _ => covered)
      (fun isItem _ => ?_) isOpen
    · obtain ⟨before, first, rest, same, openTask, _⟩ :=
        openTask_run mode kind text done _ split wasOpen
      refine (ih wasOpen before first rest same openTask).raise fun noShell => ?_
      rwa [Tracker.flushShell_of_none noShell] at covered
    · rw [floor, if_pos isItem, trackerAfter_concat]
  · rw [List.concat_eq_append] at same openTask
    rw [← List.cons_append, ← List.append_assoc] at same
    obtain ⟨rfl, isLast⟩ := List.append_inj' same rfl
    obtain rfl := List.singleton_inj.mp isLast
    have noStart := openTask.goesOn earlier token [] rfl
    exact Tracker.inTask_push (fun wasOpen => ih wasOpen before first earlier rfl openTask.prefix)
      classified fresh play (fun starts => (noStart starts).elim)
      (fun _ starts => (noStart starts).elim) isOpen

/-- **A line of a script gives no task a second action.** Let a line above the floor of the open task
show what the task runs, and let a line of a script come that is not part of another key's value and
leaves the task open. Then the line joins the shell block of the task, or it starts a task of its
own, provided that a task may start there: in a playbook, in a list of tasks, or wherever a list of
tasks is open. -/
theorem fragment_after_action
    (split : tokens mode kind text = before ++ first :: rest ++ token :: later)
    (openTask : OpenTask mode kind before first rest) (isFragment : token.IsFragment) :
    let tracker := trackerAfter mode kind (before ++ first :: rest)
    let ready := tracker.flushShell.leave token
    (tracker.extendShell? token = none →
      tracker.flushShell.takeNested? token = none ∧ ready.nesting.task.isSome) →
    (kind = .playbook ∨ kind = .taskList ∨ ready.nesting.taskSection.isSome) →
    (∃ line ∈ tracker.flushShell.out.drop (floor mode kind before first).length,
      Tracker.isActionLine line) →
    tracker.Joins token (tracker.push token) ∨
      tracker.StartsWithScript token (tracker.push token) := by
  intro tracker ready met place shown
  obtain ⟨family, role⟩ := isFragment
  have notBlank : token.role ≠ .blank := by rw [role]; nofun
  cases absorbs : tracker.extendShell? token with
  | some extended =>
      obtain ⟨block, absorbed, shell, taken, rfl⟩ := Tracker.extendShell?_eq_some absorbs
      rw [Tracker.push_of_absorbed absorbs]
      rcases taken with ⟨isBlank, _⟩ | ⟨_, _, rfl⟩
      · exact (notBlank isBlank).elim
      · exact .inl (.absorbed block shell rfl rfl rfl)
  | none =>
      obtain ⟨apart, inTask⟩ := met absorbs
      have leaves := tracker.flushShell.adds_leave token
      have fresh : ready.reopened = none :=
        leaves.reopened.trans (reopened_flushShell mode kind text split)
      have sameTask : ready.nesting.task = tracker.nesting.task := by
        rw [← tracker.task_flushShell]
        refine (tracker.flushShell.task_leave token).1.resolve_right fun none => ?_
        rw [none] at inTask
        cases inTask
      have wasOpen : tracker.nesting.task.isSome := sameTask ▸ inTask
      have recorded : Tracker.InTask (floor mode kind before first) ready :=
        ((inTask_run mode kind text _ _ split wasOpen before first rest rfl
          openTask).flushShell wasOpen).leave inTask
      have noShell : ready.nesting.shell = none :=
        leaves.shell.trans tracker.flushShell_state.1
      have pushed : tracker.push token = ready.openFragment token := by
        rw [Tracker.push_of_outside absorbs, Tracker.pushOutsideShell_of_apart notBlank apart,
          Tracker.place, role]
      rw [pushed]
      cases action : ready.openAction with
      | none =>
          obtain ⟨line, member, isAction⟩ := shown
          rw [← List.append_nil tracker.flushShell.out, ← leaves.out] at member
          rw [recorded.unrecorded noShell action line member] at isAction
          cases isAction
      | some known =>
          cases known with
          | shell block placement =>
              refine .inl (.rejoined block placement (leaves.remembers _ _ action) ?_ ?_ ?_ ?_)
              · rw [Tracker.openFragment, action]
              · rw [Tracker.openFragment, action]
                rfl
              · rw [Tracker.openFragment, action]
                exact leaves.out.trans (List.append_nil _)
              · rw [Tracker.openFragment, action]
                exact sameTask
          | other =>
              have isKind : ready.kind = kind := by
                rw [(tracker.flushShell.leave_state token).2.2, tracker.flushShell_play_kind.2]
                exact trackerAfter_kind mode kind text _ _ split
              have position : ready.atTaskPosition := by
                unfold Tracker.atTaskPosition
                rcases place with rfl | rfl | inSection
                · rw [isKind]
                  exact recorded.play isKind
                · rw [isKind]
                · split
                  · next isPlaybook => exact recorded.play isPlaybook
                  · rfl
                  · exact inSection
              right
              have opened : ready.openFragment token =
                  ((({ ready with taskAction := none } : Tracker).note token
                    .shellAfterAction).closeTask).openShell token (.ofFragment token) := by
                rw [Tracker.openFragment, action]
              obtain ⟨task, shell, pending, reopened⟩ := Tracker.openShell_of_noTask (by rfl)
                (show ((({ ready with taskAction := none } : Tracker).note token
                  .shellAfterAction).closeTask).atTaskPosition from position) fresh token
                (.ofFragment token)
              rw [← opened] at task shell pending reopened
              have placement := Tracker.shellPlacement_of_fresh reopened
              refine ⟨?_, task, shell, ?_, ?_⟩
              · simp only [Tracker.startsTask, absorbs, notBlank, apart, Option.isNone_none,
                  ne_eq, not_false_eq_true, decide_true, Bool.and_self, Bool.true_and]
                change ready.placingStartsTask token
                simp only [Tracker.placingStartsTask, role, action, position, decide_true,
                  Bool.or_true, Bool.and_self]
              · rw [placement]
                exact ⟨rfl, rfl⟩
              · rw [placement, Bool.and_eq_true]
                exact ⟨task, pending⟩

end

/-- After a module that is not on a list item a line of a script starts a task. -/
theorem fragment_after_action_module :
    let text := "- name: a\n  copy: src=a dest=b\n  dnf install foo\n".toList
    let lines := tokens .incremental .taskList text
    let tracker := trackerAfter .incremental .taskList (lines.take 2)
    ∃ token ∈ lines.drop 2, tracker.StartsWithScript token (tracker.push token) := by
  intro text lines tracker
  obtain ⟨length, isHeader, isFragment, noShell, shown⟩ : lines.length = 3 ∧
      (∀ token ∈ lines.take 1, token.role ≠ .listItem ∧
        (trackerAfter .incremental .taskList []).startsTask token) ∧
      (∀ token ∈ lines.drop 2, token.role = .shellFragment .packageManager ∧
        tracker.flushShell.takeNested? token = none ∧
        (tracker.flushShell.leave token).nesting.task.isSome) ∧
      (tracker.nesting.shell = none ∧ tracker.openAction = some .other) ∧
      ∃ line ∈ tracker.out.drop (trackerAfter .incremental .taskList []).out.length,
        Tracker.isActionLine line := by
    decide +kernel
  have goesOn : ∀ token ∈ (lines.drop 1).take 1,
      ¬ (trackerAfter .incremental .taskList (lines.take 1)).startsTask token := by
    decide +kernel
  obtain ⟨first, second, third, split⟩ := List.length_eq_three.mp length
  have before : tracker = trackerAfter .incremental .taskList ([] ++ first :: [second]) := by
    change trackerAfter .incremental .taskList (lines.take 2) = _
    rw [split]
    rfl
  rw [split] at isHeader isFragment goesOn ⊢
  obtain ⟨notItem, starts⟩ := isHeader first List.mem_cons_self
  obtain ⟨role, apart, inTask⟩ := isFragment third List.mem_cons_self
  have openTask : OpenTask .incremental .taskList [] first [second] := by
    refine ⟨starts, fun done token later same => ?_⟩
    cases done with
    | nil =>
        cases same
        exact goesOn second List.mem_cons_self
    | cons _ done => simp at same
  rw [← Tracker.flushShell_of_none noShell.1, before] at shown
  rw [before] at noShell apart inTask ⊢
  refine ⟨third, List.mem_cons_self, ?_⟩
  refine (fragment_after_action .incremental .taskList text split openTask ⟨_, role⟩
    (fun _ => ⟨apart, inTask⟩) (.inr (.inl rfl)) ?_).resolve_left fun joins => ?_
  · rw [floor, if_neg notItem]
    exact shown
  · cases joins with
    | absorbed _ isOpen =>
        rw [noShell.1] at isOpen
        cases isOpen
    | rejoined _ _ remembered =>
        rw [Tracker.flushShell_of_none noShell.1, noShell.2] at remembered
        cases remembered

/-- After a module on the list item that has opened the task a line of a script is written as a
second action. -/
theorem fragment_after_item :
    Tracker.isActionLine "  - copy: src=a dest=b".toList ∧
      Tracker.isActionLine "    shell: |".toList ∧
      ∀ mode, (rebuild mode .taskList "- copy: src=a dest=b\n  dnf install foo\n".toList).text =
        "---\n  - copy: src=a dest=b\n    shell: |\n      dnf install foo\n".toList := by
  refine ⟨by decide, by decide, fun mode => ?_⟩
  cases mode <;> decide +kernel

end Rebuild

end PlaybookRepair
