import PlaybookRepair.Proofs.Outline.Run
import PlaybookRepair.Proofs.TaskAction.Line

/-!
# Recording the action of a task

While a task is open the tracker records what the task runs. A line that names the action and that
has been written since the task was opened is recorded, unless it is the list item that has opened
the task (`Tracker.InTask`): such an item is written as it is, and a module on it goes unnoticed.
Every line of the source preserves this (`Tracker.inTask_push`).
-/

namespace PlaybookRepair

open Catalog (isModule)

/-! ## Keys that are no modules -/

namespace Rule

variable {facts : LineFacts} {around : Surroundings}

/-- The key of a line without a list marker that is left to the rule for other keys is no module. -/
theorem not_isModule_of_keyValue (isRole : Role.ofFacts facts around = .keyValue) :
    facts.key.any isModule = false := by
  by_contra named
  rw [Bool.not_eq_false] at named
  obtain ⟨rule, member, claims⟩ := exists_claim isRole nofun
  have notDashed : facts.dashed = false := by
    simp only [all, List.mem_cons, List.not_mem_nil, or_false] at member
    rcases member with rfl | rfl | rfl | rfl | rfl | rfl | rfl | rfl | rfl | rfl
    · cases (claimIf_eq_some claims).2
    · cases (claimIf_eq_some claims).2
    · cases (claimIf_eq_some claims).2
    · cases (playHeader_eq_some claims).1
    · obtain ⟨⟨_, same⟩, _⟩ := taskHeader_eq_some claims
      cases same
    · rcases keyword_eq_some claims with same | same <;> cases same
    · cases (claimIf_eq_some claims).2
    · obtain ⟨_, _, same⟩ := Option.map_eq_some_iff.mp claims
      cases same
    · simpa using (Bool.and_eq_true_iff.mp (claimIf_eq_some claims).1).1
    · cases (claimIf_eq_some claims).2
  -- The rule for modules comes first, so the line has a role of that rule or of one before it.
  have isModuleRole : moduleInvocation facts around = some .moduleInvocation := by
    simp [moduleInvocation, claimIf, notDashed, named]
  unfold Role.ofFacts all at isRole
  simp only [List.findSome?_cons, isModuleRole] at isRole
  cases marker : documentMarker facts around with
  | some other => simp [marker, (claimIf_eq_some marker).2] at isRole
  | none =>
    cases isBlank : blank facts around with
    | some other => simp [marker, isBlank, (claimIf_eq_some isBlank).2] at isRole
    | none =>
      cases isComment : comment facts around with
      | some other => simp [marker, isBlank, isComment, (claimIf_eq_some isComment).2] at isRole
      | none =>
        cases play : playHeader facts around with
        | some other =>
            simp [marker, isBlank, isComment, play, (playHeader_eq_some play).1] at isRole
        | none =>
          cases task : taskHeader facts around with
          | some other =>
              obtain ⟨⟨_, same⟩, _⟩ := taskHeader_eq_some task
              simp [marker, isBlank, isComment, play, task, same] at isRole
          | none =>
            cases word : keyword facts around with
            | some other =>
                rcases keyword_eq_some word with same | same <;>
                  simp [marker, isBlank, isComment, play, task, word, same] at isRole
            | none => simp [marker, isBlank, isComment, play, task, word] at isRole

theorem not_isModule_of_keyword {role : Role} (claims : keyword facts around = some role) :
    facts.key.any isModule = false := by
  cases hasKey : facts.key with
  | none => rfl
  | some key =>
      by_contra named
      rw [Option.any_some, Bool.not_eq_false] at named
      rw [keyword, hasKey, Option.bind_some, keywordScope?_of_isModule named] at claims
      split at claims <;> cases claims

end Rule

/-- The key of a header, of a keyword and of a line that is left to the rule for other keys is no
module. -/
theorem LineToken.Classified.not_isModule {token : LineToken} (classified : token.Classified)
    (role : (∃ dashed, token.role = .taskHeader dashed) ∨ token.role = .taskAttribute ∨
      token.role = .playAttribute ∨ token.role = .keyValue) :
    token.key.any isModule = false := by
  obtain ⟨line, around, rfl⟩ := classified
  generalize isRole : Role.ofFacts (.ofLine line) around = own
  have same : (LineToken.classify line around).role = own := isRole
  change (LineFacts.ofLine line).key.any isModule = false
  by_cases isOther : own = .keyValue
  · exact Rule.not_isModule_of_keyValue (isRole.trans isOther)
  · obtain ⟨rule, member, claims⟩ := Rule.exists_claim isRole (by
      rintro rfl
      rw [same] at role
      simp at role)
    rw [same] at role
    simp only [isOther, or_false] at role
    simp only [Rule.all, List.mem_cons, List.not_mem_nil, or_false] at member
    rcases member with rfl | rfl | rfl | rfl | rfl | rfl | rfl | rfl | rfl | rfl
    · simp [(Rule.claimIf_eq_some claims).2] at role
    · simp [(Rule.claimIf_eq_some claims).2] at role
    · simp [(Rule.claimIf_eq_some claims).2] at role
    · simp [(Rule.playHeader_eq_some claims).1] at role
    · have named := (Rule.taskHeader_eq_some claims).2
      rw [of_decide_eq_true named, Option.any_some]
      exact Tidy.isModule_name
    · exact Rule.not_isModule_of_keyword claims
    · simp [(Rule.claimIf_eq_some claims).2] at role
    · obtain ⟨_, _, same⟩ := Option.map_eq_some_iff.mp claims
      simp [← same] at role
    · simp [(Rule.claimIf_eq_some claims).2] at role
    · simp [(Rule.claimIf_eq_some claims).2] at role

namespace Tracker

variable {floor lines : List Text} {tracker before after : Tracker} {token : LineToken}

/-! ## The open task -/

/-- An open key of a task stands where the keys of tasks do, and a block scalar among the lines below
it no further left. -/
structure OpenKeyInTask (mode : RebuildMode) (key : OpenKey) : Prop where
  depth : taskKeyColumn ≤ key.depth
  inner : ∀ inner, key.innerLiteral = some inner → taskKeyColumn ≤ inner.depth ∧
    (mode = .incremental → key.sourceIndent ≤ inner.sourceIndent)

/-- No line above the floor says what the open task runs, unless a shell block is open or the
tracker has recorded an action. The blocks of the task are written below its keys' column, and in a
playbook the task is in a play. -/
structure Records (floor : List Text) (tracker : Tracker) : Prop where
  play : tracker.kind = .playbook → tracker.nesting.play.isSome
  remembered : ∀ block placement, tracker.openAction = some (.shell block placement) →
    taskKeyColumn ≤ placement.depth
  reopened : ∀ placement, tracker.reopened = some placement → taskKeyColumn ≤ placement.depth
  unrecorded : tracker.nesting.shell = none → tracker.openAction = none →
    ∀ line ∈ tracker.out.drop floor.length, isActionLine line = false

/-- The open task records its action, and what continues a key of it is written below the key. -/
structure InTask (floor : List Text) (tracker : Tracker) : Prop extends Records floor tracker where
  openKey : ∀ key, tracker.nesting.openKey = some key → OpenKeyInTask tracker.mode key
  last : tracker.nesting.shell = none →
    ∃ column, tracker.lastKeyColumn = some column ∧ taskKeyColumn ≤ column

/-- What is added to a task either shows no action or has one recorded. -/
theorem Records.adds (records : Records floor before) (adds : Adds before after lines)
    (play : after.nesting.play = before.nesting.play)
    (silent : after.openAction = none →
      before.openAction = none ∧ ∀ line ∈ lines, isActionLine line = false) :
    Records floor after where
  play isPlaybook := play ▸ records.play (adds.kind ▸ isPlaybook)
  remembered block placement action :=
    records.remembered block placement (adds.remembers block placement action)
  reopened placement reopened := records.reopened placement (adds.reopened ▸ reopened)
  unrecorded shell action line member := by
    obtain ⟨noAction, noLine⟩ := silent action
    rw [adds.out, List.drop_append] at member
    rcases List.mem_append.mp member with earlier | added
    · exact records.unrecorded (adds.shell ▸ shell) noAction line earlier
    · exact noLine line (List.mem_of_mem_drop added)

/-- Whatever is added, an action that is recorded with it is noticed. -/
theorem Records.recordOther (records : Records floor before) (adds : Adds before after lines)
    (play : after.nesting.play = before.nesting.play) (isOpen : after.nesting.task.isSome) :
    Records floor { after with taskAction := some .other } where
  play isPlaybook := play ▸ records.play (adds.kind ▸ isPlaybook)
  remembered block placement action := by
    rw [openAction, if_pos isOpen] at action
    cases action
  reopened placement reopened := records.reopened placement (adds.reopened ▸ reopened)
  unrecorded _ action := by
    rw [openAction, if_pos isOpen] at action
    cases action

/-- After a key of the task has been written, its value is written below it. -/
theorem Records.afterKey (records : Records floor tracker) (token : LineToken) :
    InTask floor (tracker.afterKey token taskKeyColumn) where
  toRecords := { records with }
  openKey key isOpen := by
    change (if token.opensBlock then some _ else none) = some key at isOpen
    split at isOpen
    · cases isOpen
      exact ⟨le_rfl, nofun⟩
    · cases isOpen
  last _ := ⟨_, rfl, le_rfl⟩

section Keyed

variable (classified : token.Classified) (hasKey : token.key.isSome)
include classified hasKey

/-- A key that is written for a task is no action, or it is recorded. -/
theorem Records.emitTaskKey (records : Records floor tracker)
    (noModule : token.key.any isModule = false) : InTask floor (tracker.emitTaskKey token) := by
  have closed : Records floor tracker.closeKey := { records with }
  refine Records.afterKey ?_ token
  unfold emitTaskLine
  split
  · refine closed.adds ((adds_withPendingDash _ false).after_silent
      (adds_emit _ taskColumn (listItemText token.keyedText))) rfl fun action => ⟨action, ?_⟩
    exact List.forall_mem_singleton.mpr (not_isActionLine_header classified hasKey noModule)
  · refine closed.adds (adds_emit _ taskKeyColumn token.keyedText) rfl fun action => ⟨action, ?_⟩
    exact List.forall_mem_singleton.mpr (not_isActionLine_taskKey classified hasKey noModule)

end Keyed

/-- Between two lines without a shell block: the open task records its action, and where no task is
open nothing has been written above the floor. -/
structure Ready (floor : List Text) (tracker : Tracker) : Prop where
  shell : tracker.nesting.shell = none
  reopened : tracker.reopened = none
  inTask : tracker.nesting.task.isSome → InTask floor tracker
  fresh : tracker.nesting.task = none → tracker.out.length ≤ floor.length

/-- A task of which nothing stands above the floor shows no action. -/
theorem records_of_covered (play : tracker.kind = .playbook → tracker.nesting.play.isSome)
    (action : tracker.taskAction = none) (reopened : tracker.reopened = none)
    (covered : tracker.out.length ≤ floor.length) : Records floor tracker where
  play := play
  remembered _ _ remembered := by
    rw [openAction, action, ite_self] at remembered
    cases remembered
  reopened _ again := by
    rw [reopened] at again
    cases again
  unrecorded _ _ line member := by
    rw [List.drop_eq_nil_of_le covered] at member
    cases member

/-- What has just been opened shows no action. -/
theorem records_openTask (reopened : tracker.reopened = none)
    (fresh : tracker.out.length ≤ floor.length) (sourceIndent : Nat)
    (play : tracker.kind = .playbook → tracker.nesting.play.isSome) :
    Records floor ((tracker.ensureTaskSection sourceIndent).openTask sourceIndent) := by
  obtain ⟨supplied, areSupplied, adds⟩ := tracker.adds_ensureTaskSection sourceIndent
  obtain ⟨samePlay, _, _⟩ := tracker.ensureTaskSection_nesting sourceIndent
  refine ⟨fun isPlaybook => ?_, nofun, fun placement again => ?_, fun _ _ line member => ?_⟩
  · exact (congrArg Option.isSome samePlay).trans (play (adds.kind ▸ isPlaybook))
  · rw [openTask, adds.reopened, reopened] at again
    cases again
  · change line ∈ (tracker.ensureTaskSection sourceIndent).out.drop floor.length at member
    rw [adds.out, List.drop_append, List.drop_eq_nil_of_le fresh, List.nil_append] at member
    rcases areSupplied with rfl | rfl
    · simp at member
    · rw [List.mem_singleton.mp (List.mem_of_mem_drop member)]
      exact not_isActionLine_suppliedTasks

theorem play_of_position (position : tracker.atTaskPosition) (isPlaybook : tracker.kind = .playbook) :
    tracker.nesting.play.isSome := by
  rw [atTaskPosition, isPlaybook] at position
  exact position

theorem Ready.note (ready : Ready floor tracker) (token : LineToken) (reason : AmbiguityReason) :
    Ready floor (tracker.note token reason) where
  shell := ready.shell
  reopened := ready.reopened
  inTask task := { ready.inTask task with }
  fresh := ready.fresh

/-- A task that is open or opened for a line records its action. -/
theorem Ready.ensureTask (ready : Ready floor tracker) (canHold : tracker.canHoldTask)
    (keyIndent : Nat) : Records floor (tracker.ensureTask keyIndent) := by
  cases task : tracker.nesting.task with
  | some indent =>
      have isOpen : tracker.nesting.task.isSome := by rw [task]; rfl
      rw [ensureTask_of_task isOpen]
      exact (ready.inTask isOpen).toRecords
  | none =>
      have noTask : tracker.nesting.task.isNone := by rw [task]; rfl
      rw [canHoldTask_of_noTask noTask] at canHold
      rw [Tracker.ensureTask, if_neg (by simp [task])]
      exact { records_openTask ready.reopened (ready.fresh task) (keyIndent - indentStep)
        (play_of_position canHold) with }

/-! ## Lines by their role -/

theorem task_eq_none_of_not_canHoldTask (cannotHold : ¬ tracker.canHoldTask) :
    tracker.nesting.task = none := by
  rw [canHoldTask, Bool.or_eq_true, not_or, Option.isSome_iff_ne_none, not_not] at cannotHold
  exact cannotHold.1

section Keyed

variable (classified : token.Classified) (hasKey : token.key.isSome)
include classified hasKey

theorem Ready.pushMisplaced (ready : Ready floor tracker) (reason : AmbiguityReason)
    (noModule : tracker.canHoldTask → token.key.any isModule = false)
    (inTask : (tracker.pushMisplaced token reason).nesting.task.isSome) :
    InTask floor (tracker.pushMisplaced token reason) := by
  unfold Tracker.pushMisplaced at inTask ⊢
  dsimp only at inTask ⊢
  split at inTask
  · cases inTask
  · next noPlay =>
      rw [if_neg noPlay]
      split at inTask
      · next canHold =>
          rw [if_pos canHold]
          exact ((ready.note token reason).ensureTask canHold token.indent).emitTaskKey classified
            hasKey (noModule canHold)
      · next cannotHold =>
          have noTask : (tracker.note token reason).nesting.task = none :=
            task_eq_none_of_not_canHoldTask cannotHold
          change (tracker.note token reason).nesting.task.isSome at inTask
          rw [noTask] at inTask
          cases inTask

theorem Ready.pushTaskAttribute (ready : Ready floor tracker)
    (noModule : token.key.any isModule = false)
    (inTask : (tracker.pushTaskAttribute token).nesting.task.isSome) :
    InTask floor (tracker.pushTaskAttribute token) := by
  unfold Tracker.pushTaskAttribute at inTask ⊢
  split at inTask
  · next isOpen =>
      rw [if_pos isOpen]
      exact (ready.inTask isOpen).toRecords.emitTaskKey classified hasKey noModule
  · next closed =>
      rw [if_neg closed]
      exact ready.pushMisplaced classified hasKey _ (fun _ => noModule) inTask

theorem Ready.pushPlayAttribute (ready : Ready floor tracker)
    (noModule : token.key.any isModule = false)
    (inTask : (tracker.pushPlayAttribute token).nesting.task.isSome) :
    InTask floor (tracker.pushPlayAttribute token) := by
  unfold Tracker.pushPlayAttribute at inTask ⊢
  split at inTask
  · next noPlay =>
      rw [if_pos noPlay]
      exact ready.pushMisplaced classified hasKey _ (fun _ => noModule) inTask
  · dsimp only at inTask
    split at inTask <;> cases inTask

theorem Ready.pushKeyValue (ready : Ready floor tracker)
    (noModule : token.key.any isModule = false)
    (inTask : (tracker.pushKeyValue token).nesting.task.isSome) :
    InTask floor (tracker.pushKeyValue token) := by
  unfold Tracker.pushKeyValue at inTask ⊢
  split at inTask
  · next isOpen =>
      rw [if_pos isOpen]
      exact (ready.inTask isOpen).toRecords.emitTaskKey classified hasKey noModule
  · next closed =>
      rw [if_neg closed]
      split at inTask
      · next canHold =>
          rw [if_pos canHold]
          exact (ready.ensureTask (Bool.and_eq_true_iff.mp canHold).2 token.indent).emitTaskKey
            classified hasKey noModule
      · exact (closed inTask).elim

theorem Ready.pushTaskHeader (ready : Ready floor tracker)
    (noModule : token.key.any isModule = false) (begins : tracker.out.length ≤ floor.length)
    (play : tracker.kind = .playbook → tracker.nesting.play.isSome) :
    InTask floor (tracker.pushTaskHeader token) := by
  unfold Tracker.pushTaskHeader
  dsimp only
  generalize (if token.dashed then token.indent else token.indent - indentStep) = sourceIndent
  generalize isClosed : tracker.withNesting
    { tracker.nesting with task := none, openKey := none } = closed
  have reopened : closed.reopened = none := isClosed ▸ ready.reopened
  have covered : closed.out.length ≤ floor.length := isClosed ▸ begins
  have samePlay : closed.kind = .playbook → closed.nesting.play.isSome := isClosed ▸ play
  have opened := records_openTask reopened covered sourceIndent samePlay
  refine Records.afterKey ?_ token
  refine opened.adds ((adds_withPendingDash _ false).after_silent
    (adds_emit _ taskColumn (listItemText token.keyedText))) rfl
    fun action => ⟨action, List.forall_mem_singleton.mpr ?_⟩
  exact not_isActionLine_header classified hasKey noModule

end Keyed

/-- A shell block that is opened in a task is going to be its action. -/
theorem Ready.openShell (ready : Ready floor tracker) (block : ShellBlock)
    (inTask : (tracker.openShell token block).nesting.task.isSome) :
    InTask floor (tracker.openShell token block) := by
  unfold Tracker.openShell at inTask ⊢
  dsimp only at inTask ⊢
  have closed : Ready floor tracker.closeKey := { ready with
    inTask := fun isOpen => { ready.inTask isOpen with openKey := nofun } }
  split at inTask
  · next canHold =>
      rw [if_pos canHold]
      have records := closed.ensureTask canHold token.indent
      refine ⟨⟨records.play, records.remembered, records.reopened, nofun⟩, ?_, nofun⟩
      intro key isOpen
      change (tracker.closeKey.ensureTask token.indent).nesting.openKey = some key at isOpen
      have noKey : (tracker.closeKey.ensureTask token.indent).nesting.openKey = none := by
        unfold Tracker.ensureTask Tracker.ensureTaskSection
        split
        · rfl
        · dsimp only
          split <;> rfl
      rw [noKey] at isOpen
      cases isOpen
  · next cannotHold =>
      change (tracker.closeKey.note token .shellOutsideTask).nesting.task.isSome at inTask
      rw [show (tracker.closeKey.note token .shellOutsideTask).nesting.task = none from
        task_eq_none_of_not_canHoldTask cannotHold] at inTask
      cases inTask

/-- The key of a module is recorded as the action of its task, or it opens a shell block. -/
theorem Ready.pushModule (ready : Ready floor tracker) (classified : token.Classified)
    (hasKey : token.key.isSome) (inTask : (tracker.pushModule token).nesting.task.isSome) :
    InTask floor (tracker.pushModule token) := by
  unfold Tracker.pushModule at inTask ⊢
  split at inTask
  · next isShell =>
      rw [if_pos isShell]
      exact ready.openShell _ inTask
  · next notShell =>
      rw [if_neg notShell]
      split at inTask
      · next canHold =>
          rw [if_pos canHold]
          have records := ready.ensureTask canHold token.indent
          have closed : Records floor (tracker.ensureTask token.indent).closeKey :=
            { records with }
          have isOpen : ((tracker.ensureTask token.indent).closeKey.emitTaskLine
              token.keyedText).nesting.task.isSome := inTask
          rcases (tracker.ensureTask token.indent).closeKey.adds_emitTaskLine token.keyedText
            with adds | adds
          · exact (closed.recordOther adds (by rw [task_emitTaskLine]) isOpen).afterKey token
          · exact (closed.recordOther adds (by rw [task_emitTaskLine]) isOpen).afterKey token
      · next cannotHold =>
          rw [if_neg cannotHold]
          exact ready.pushMisplaced classified hasKey _ (fun canHold => (cannotHold canHold).elim)
            inTask

/-- A line of a script joins the block that is recorded, or it opens a block in a task without an
action. -/
theorem Ready.openFragment (ready : Ready floor tracker)
    (begins : tracker.openAction = some .other → tracker.atTaskPosition →
      tracker.out.length ≤ floor.length)
    (inTask : (tracker.openFragment token).nesting.task.isSome) :
    InTask floor (tracker.openFragment token) := by
  unfold Tracker.openFragment at inTask ⊢
  dsimp only at inTask ⊢
  cases action : tracker.openAction with
  | none =>
      rw [action] at inTask
      have forgotten : Ready floor { tracker with taskAction := none } := { ready with
        inTask := fun isOpen => { ready.inTask isOpen with
          remembered := fun _ _ remembered => by
            rw [openAction, if_pos isOpen] at remembered
            cases remembered
          unrecorded := fun shell _ => (ready.inTask isOpen).unrecorded shell action } }
      exact forgotten.openShell _ inTask
  | some known =>
      have isOpen := task_isSome_of_openAction action
      cases known with
      | shell block placement =>
          refine ⟨⟨(ready.inTask isOpen).play, ?_, ?_, ?_⟩, ?_, ?_⟩
          · intro _ _ remembered
            rw [openAction, if_pos isOpen] at remembered
            cases remembered
          · intro other again
            obtain rfl := Option.some.inj again
            exact (ready.inTask isOpen).remembered block placement action
          · rintro ⟨⟩
          · rintro _ ⟨⟩
          · rintro ⟨⟩
      | other =>
          rw [action] at inTask
          dsimp only at inTask ⊢
          generalize isClosed : (({ tracker with taskAction := none } : Tracker).note token
            .shellAfterAction).closeTask = closed at inTask ⊢
          have noTask : closed.nesting.task = none := by rw [← isClosed]; rfl
          have position : tracker.atTaskPosition := by
            by_contra elsewhere
            have same : closed.atTaskPosition = false := by
              rw [← isClosed]
              exact Bool.eq_false_iff.mpr elsewhere
            have step := closed.taskStep_openShell token (.ofFragment token)
            rw [same, Bool.and_false, TaskStep, if_neg Bool.false_ne_true, noTask, or_self] at step
            rw [step] at inTask
            cases inTask
          have left : Ready floor closed := by
            refine ⟨?_, ?_, ?_, ?_⟩
            · rw [← isClosed]
              exact ready.shell
            · rw [← isClosed]
              exact ready.reopened
            · rw [noTask]
              exact fun isOpen => (Bool.false_ne_true isOpen).elim
            · rw [← isClosed]
              exact fun _ => begins action position
          exact left.openShell _ inTask

/-! ## Lines without a key of their own -/

/-- A line that shows no action may be added to a task. -/
theorem InTask.emitLine (inTask : InTask floor tracker) {line : Text}
    (notAction : isActionLine line = false) : InTask floor (tracker.emitLine line) where
  toRecords := inTask.toRecords.adds (adds_emitLine tracker line) rfl fun action =>
    ⟨action, List.forall_mem_singleton.mpr notAction⟩
  openKey := inTask.openKey
  last := inTask.last

theorem InTask.pushContinuation (inTask : InTask floor tracker)
    (noShell : tracker.nesting.shell = none) (token : LineToken) :
    InTask floor (tracker.pushContinuation token) := by
  obtain ⟨column, last, deep⟩ := inTask.last noShell
  unfold Tracker.pushContinuation
  rw [last]
  exact inTask.emitLine (not_isActionLine_deeper (Nat.lt_of_le_of_lt deep (by simp [indentStep])) _)

theorem InTask.note (inTask : InTask floor tracker) (token : LineToken)
    (reason : AmbiguityReason) : InTask floor (tracker.note token reason) :=
  { inTask with }

theorem InTask.copyLine (inTask : InTask floor tracker)
    (isComment : token.content.head? = some '#') : InTask floor (tracker.copyLine token) := by
  unfold Tracker.copyLine
  split
  · exact inTask.emitLine (not_isActionLine_comment isComment)
  · exact inTask

/-- A list item opens a task above which nothing is recorded, or it continues a key. -/
theorem Ready.pushListItem (ready : Ready floor tracker)
    (item : tracker.placingStartsTask token → (tracker.pushListItem token).out.length ≤ floor.length)
    (isItem : token.role = .listItem)
    (inTask : (tracker.pushListItem token).nesting.task.isSome) :
    InTask floor (tracker.pushListItem token) := by
  unfold Tracker.pushListItem at item inTask ⊢
  unfold placingStartsTask at item
  rw [isItem] at item
  dsimp only at item inTask ⊢
  split at inTask
  · next newItem =>
      rw [newItem] at item
      rw [if_pos newItem]
      generalize isClosed : ({ tracker with
        nesting := { tracker.nesting with task := none, openKey := none }
        pendingDash := false } : Tracker) = closed at item inTask ⊢
      obtain ⟨samePlay, sameTask, _⟩ := closed.ensureTaskSection_nesting token.indent
      obtain ⟨_, _, adds⟩ := closed.adds_ensureTaskSection token.indent
      split at inTask
      · next hasKey =>
          rw [if_pos hasKey]
          simp only [hasKey, ↓reduceIte, Bool.and_self, forall_const] at item
          have reopened : (closed.ensureTaskSection token.indent).reopened = none := by
            rw [adds.reopened, ← isClosed]
            exact ready.reopened
          have play (isPlaybook : (closed.ensureTaskSection token.indent).kind = .playbook) :
              (closed.ensureTaskSection token.indent).nesting.play.isSome := by
            rw [adds.kind, ← isClosed] at isPlaybook
            rw [samePlay, ← isClosed]
            exact play_of_position (Bool.and_eq_true_iff.mp newItem).1 isPlaybook
          have records : Records floor (((closed.ensureTaskSection token.indent).emit taskColumn
              token.nestedText).openTask token.indent) :=
            records_of_covered play rfl reopened item
          exact records.afterKey token
      · change (closed.ensureTaskSection token.indent).nesting.task.isSome at inTask
        rw [sameTask, ← isClosed] at inTask
        cases inTask
  · next elsewhere =>
      rw [if_neg elsewhere]
      rw [taskStep_pushContinuation] at inTask
      exact ((ready.inTask inTask).note token _).pushContinuation ready.shell token

/-! ## One line -/

/-- **Placing a line.** The task that is open afterwards records its action: the one that was open,
or a new one that starts above the floor. A list item that starts one is below the floor itself. -/
theorem Ready.place (ready : Ready floor tracker) (classified : token.Classified)
    (play : ∀ dashed, token.role = .taskHeader dashed → tracker.kind = .playbook →
      tracker.nesting.play.isSome)
    (begins : tracker.placingStartsTask token → tracker.out.length ≤ floor.length)
    (item : token.role = .listItem → tracker.placingStartsTask token →
      (tracker.place token).out.length ≤ floor.length)
    (inTask : (tracker.place token).nesting.task.isSome) : InTask floor (tracker.place token) := by
  have fits := classified.fits
  unfold Tracker.place at item inTask ⊢
  cases role : token.role with
  | blank =>
      rw [role] at inTask
      exact ready.inTask inTask
  | comment =>
      rw [role] at inTask fits
      have isOpen : tracker.nesting.task.isSome := by
        dsimp only at inTask
        unfold Tracker.copyLine at inTask
        split at inTask <;> exact inTask
      exact (ready.inTask isOpen).copyLine fits
  | documentMarker =>
      rw [role] at inTask
      dsimp only at inTask
      unfold pushDocumentMarker at inTask
      dsimp only at inTask
      split at inTask <;> cases inTask
  | playHeader =>
      rw [role] at inTask
      cases inTask
  | taskHeader dashed =>
      rw [role] at fits
      exact ready.pushTaskHeader classified fits (classified.not_isModule (.inl ⟨_, role⟩))
        (begins (by rw [placingStartsTask, role])) (play dashed role)
  | playAttribute =>
      rw [role] at fits inTask
      exact ready.pushPlayAttribute classified fits
        (classified.not_isModule (.inr (.inr (.inl role)))) inTask
  | taskAttribute =>
      rw [role] at fits inTask
      exact ready.pushTaskAttribute classified fits
        (classified.not_isModule (.inr (.inl role))) inTask
  | moduleInvocation =>
      rw [role] at fits inTask
      have hasKey : token.key.isSome := by
        cases isKey : token.key with
        | none =>
            rw [Role.Fits, isKey] at fits
            cases fits
        | some key => rfl
      exact ready.pushModule classified hasKey inTask
  | shellFragment family =>
      rw [role] at inTask
      refine ready.openFragment (fun action position => begins ?_) inTask
      rw [placingStartsTask, role]
      simp [action, position]
  | keyValue =>
      rw [role] at fits inTask
      exact ready.pushKeyValue classified fits
        (classified.not_isModule (.inr (.inr (.inr role)))) inTask
  | listItem =>
      rw [role] at item inTask
      exact ready.pushListItem (item rfl) role inTask
  | continuation =>
      rw [role] at inTask
      dsimp only at inTask ⊢
      unfold Tracker.pushUnplaced at inTask ⊢
      split at inTask
      · next last =>
          rw [if_pos last]
          rw [taskStep_pushContinuation] at inTask
          exact (ready.inTask inTask).pushContinuation ready.shell token
      · next noLast =>
          rw [if_neg noLast]
          rw [taskStep_pushContinuation] at inTask
          exact ((ready.inTask inTask).note token _).pushContinuation ready.shell token

/-- What a key with a block scalar among the lines below it is at a line. -/
theorem OpenKeyInTask.keyAt {mode : RebuildMode} {key : OpenKey}
    (keyInTask : OpenKeyInTask mode key) (token : LineToken) :
    OpenKeyInTask mode (keyAt key token) ∧
      ∀ inner, (Tracker.keyAt key token).innerLiteral = some inner →
        inner.sourceIndent < token.indent := by
  have kept {inner : InnerLiteral} (isInner : (Tracker.keyAt key token).innerLiteral = some inner) :
      key.innerLiteral = some inner ∧ inner.sourceIndent < token.indent := by
    simpa [Tracker.keyAt, Option.filter_eq_some_iff] using isInner
  exact ⟨⟨keyInTask.depth, fun inner isInner => keyInTask.inner inner (kept isInner).1⟩,
    fun inner isInner => (kept isInner).2⟩

section Nested

variable {key : OpenKey} (keyInTask : OpenKeyInTask tracker.mode key)
  (nests : tracker.nestsUnder key token)
include keyInTask nests

/-- A line of an open value stands deeper than the keys of its task, or it is an item of a list
there. -/
theorem OpenKeyInTask.nestedColumn
    (inner : ∀ inner, key.innerLiteral = some inner → inner.sourceIndent < token.indent) :
    taskKeyColumn < tracker.nestedColumn key token ∨
      taskKeyColumn = tracker.nestedColumn key token ∧ token.dashed ∧ key.literal = false ∧
        key.innerLiteral = none := by
  have depth := keyInTask.depth
  unfold nestsUnder at nests
  unfold Tracker.nestedColumn
  cases mode : tracker.mode with
  | canonical =>
      left
      cases isInner : key.innerLiteral with
      | none => exact Nat.lt_succ_of_le (Nat.le_succ_of_le depth)
      | some nested =>
          exact Nat.lt_succ_of_le (Nat.le_succ_of_le (keyInTask.inner nested isInner).1)
  | incremental =>
      dsimp only
      split at nests
      · have deeper := of_decide_eq_true nests
        omega
      · next notLiteral =>
          cases isInner : key.innerLiteral with
          | some nested =>
              have left := (keyInTask.inner nested isInner).2 mode
              have right := inner nested isInner
              omega
          | none =>
              simp only [isInner, mode, Option.isSome_none, Bool.false_eq_true, ↓reduceIte,
                Bool.or_eq_true, Bool.and_eq_true, decide_eq_true_eq] at nests
              rcases nests with deeper | ⟨⟨level, isItem⟩, _⟩
              · omega
              · simp only [isItem, Bool.eq_false_iff.mpr notLiteral, and_self, and_true]
                omega

theorem OpenKeyInTask.keyAfter {column : Nat} (deep : taskKeyColumn ≤ column) :
    OpenKeyInTask tracker.mode (keyAfter key token column) := by
  unfold Tracker.keyAfter
  split
  · next isBlock =>
      simp only [Bool.and_eq_true, Bool.not_eq_true', Option.isNone_iff_eq_none] at isBlock
      obtain ⟨⟨⟨notLiteral, noInner⟩, _⟩, _⟩ := isBlock
      refine ⟨keyInTask.depth, fun inner isInner => ?_⟩
      obtain rfl := Option.some.inj isInner
      refine ⟨deep.trans (Nat.le_add_right _ _), fun incremental => ?_⟩
      simp only [nestsUnder, notLiteral, noInner, incremental, Option.isSome_none,
        Bool.false_eq_true, ↓reduceIte, Bool.or_eq_true, Bool.and_eq_true,
        decide_eq_true_eq] at nests
      dsimp only
      omega
  · exact keyInTask

end Nested

/-- A line of an open value shows no action. -/
theorem InTask.takeNested? {taken : Tracker} (inTask : InTask floor tracker)
    (takes : tracker.takeNested? token = some taken) : InTask floor taken := by
  cases isOpen : tracker.nesting.openKey with
  | none =>
      rw [takeNested?_of_closed isOpen] at takes
      cases takes
  | some key =>
      obtain ⟨keyInTask, inner⟩ := (inTask.openKey key isOpen).keyAt token
      cases nests : tracker.nestsUnder (keyAt key token) token with
      | false =>
          rw [takeNested?_of_apart isOpen nests] at takes
          cases takes
      | true =>
          rw [takeNested?_of_nests isOpen nests] at takes
          obtain rfl := Option.some.inj takes
          have column := keyInTask.nestedColumn nests inner
          have deep : taskKeyColumn ≤ tracker.nestedColumn (keyAt key token) token :=
            column.elim Nat.le_of_lt fun level => Nat.le_of_eq level.1
          have written : InTask floor (tracker.emit (tracker.nestedColumn (keyAt key token) token)
              (if (keyAt key token).literal || (keyAt key token).innerLiteral.isSome
                then token.content else token.nestedText)) := by
            refine inTask.emitLine ?_
            rcases column with deeper | ⟨level, isItem, notLiteral, noInner⟩
            · exact not_isActionLine_deeper deeper _
            · rw [notLiteral, noInner, ← level]
              obtain ⟨rest, text⟩ : ∃ rest, token.nestedText = '-' :: rest := by
                unfold LineToken.nestedText
                rw [isItem]
                split
                · exact ⟨_, rfl⟩
                · split <;> exact ⟨_, rfl⟩
                · contradiction
                · contradiction
              rw [Option.isSome_none, Bool.or_self, if_neg nofun, text]
              exact not_isActionLine_item rest
          exact { written with
            openKey := fun other isOther => Option.some.inj isOther ▸
              keyInTask.keyAfter nests deep }

/-- The block of the open task is recorded when it is written. -/
theorem InTask.closeShell {block : ShellBlock} (inTask : InTask floor tracker)
    (isOpen : tracker.nesting.task.isSome) : InTask floor (tracker.closeShell block) := by
  have closes := tracker.closes_closeShell block
  have depth : taskKeyColumn ≤ tracker.shellPlacement.depth := by
    cases reopened : tracker.reopened with
    | none =>
        rw [shellPlacement_of_fresh reopened]
        simp only [Nesting.keyColumn, Nesting.innermost, isOpen, ↓reduceIte, le_refl]
    | some placement =>
        rw [shellPlacement, reopened]
        exact inTask.reopened placement reopened
  have action : (tracker.closeShell block).openAction ≠ none := by
    obtain ⟨indent, task⟩ := Option.isSome_iff_exists.mp isOpen
    unfold Tracker.closeShell
    dsimp only
    split <;> simp [openAction, Tracker.emitLine, replaceLines, task]
  refine ⟨⟨?_, ?_, ?_, fun _ none => (action none).elim⟩, ?_, fun _ => ?_⟩
  · unfold Tracker.closeShell
    dsimp only
    split <;> exact inTask.play
  · intro other placement remembered
    obtain ⟨_, rfl⟩ := closes.remembers other placement remembered
    exact depth
  · rw [closes.reopened]
    rintro _ ⟨⟩
  · intro key isKey
    rw [closes.mode]
    have either : block.isBare ∧ key = { sourceIndent := block.startIndent
                                         depth := tracker.shellPlacement.depth
                                         literal := false } ∨
        tracker.nesting.openKey = some key := by
      unfold Tracker.closeShell at isKey
      dsimp only at isKey
      by_cases isBare : block.isBare
      · simp only [isBare, ↓reduceIte] at isKey
        split at isKey <;> exact .inl ⟨isBare, (Option.some.inj isKey).symm⟩
      · simp only [isBare] at isKey
        split at isKey <;> exact .inr isKey
    rcases either with ⟨_, rfl⟩ | earlier
    · refine ⟨depth, ?_⟩
      rintro _ ⟨⟩
    · exact inTask.openKey key earlier
  · refine ⟨tracker.shellPlacement.depth, ?_, depth⟩
    unfold Tracker.closeShell
    dsimp only
    split <;> rfl

theorem InTask.flushShell (inTask : InTask floor tracker) (isOpen : tracker.nesting.task.isSome) :
    InTask floor tracker.flushShell := by
  cases shell : tracker.nesting.shell with
  | none =>
      rw [flushShell_of_none shell]
      exact inTask
  | some block =>
      rw [flushShell_of_some shell]
      exact inTask.closeShell isOpen

/-- A task that a line leaves open still records its action. -/
theorem InTask.leave (inTask : InTask floor tracker)
    (isOpen : (tracker.leave token).nesting.task.isSome) : InTask floor (tracker.leave token) := by
  have left : InTask floor (tracker.leaveKey token) := by
    unfold leaveKey
    split
    · exact inTask
    · exact { inTask with openKey := nofun }
  unfold Tracker.leave at isOpen ⊢
  dsimp only at isOpen ⊢
  generalize tracker.leaveKey token = ready at left isOpen ⊢
  split at isOpen
  · next incremental =>
      rw [if_pos incremental]
      unfold closeByDedent at isOpen ⊢
      split at isOpen
      · next stays =>
          rw [if_pos stays]
          exact left
      · next moves =>
          rw [if_neg moves]
          dsimp only at isOpen ⊢
          cases leaves : ready.leavesTask token with
          | true =>
              simp only [leaves, ↓reduceIte] at isOpen
              split at isOpen <;> cases isOpen
          | false =>
              simp only [Bool.false_eq_true, ↓reduceIte]
              split
              · exact { left with }
              · exact left
  · next canonical =>
      rw [if_neg canonical]
      exact left

/-- A block that absorbs a line is still going to be the action of its task. -/
theorem InTask.absorb {extended : Tracker} (inTask : InTask floor tracker)
    (absorbs : tracker.extendShell? token = some extended) : InTask floor extended := by
  obtain ⟨_, _, _, _, rfl⟩ := extendShell?_eq_some absorbs
  exact { inTask with
    unrecorded := nofun
    last := nofun }

/-- **One line and the action of the open task.** Every line keeps the action of the open task
recorded, if no line that starts a task has been written above the floor. -/
theorem inTask_push (inTask : tracker.nesting.task.isSome → InTask floor tracker)
    (classified : token.Classified) (fresh : tracker.flushShell.reopened = none)
    (play : ∀ dashed, token.role = .taskHeader dashed → tracker.kind = .playbook →
      tracker.nesting.play.isSome)
    (begins : tracker.startsTask token → tracker.flushShell.out.length ≤ floor.length)
    (item : token.role = .listItem → tracker.startsTask token →
      (tracker.push token).out.length ≤ floor.length)
    (isOpen : (tracker.push token).nesting.task.isSome) : InTask floor (tracker.push token) := by
  have still (task : tracker.flushShell.nesting.task.isSome) : InTask floor tracker.flushShell := by
    rw [tracker.task_flushShell] at task
    exact (inTask task).flushShell task
  cases absorbs : tracker.extendShell? token with
  | some extended =>
      rw [push_of_absorbed absorbs] at isOpen ⊢
      obtain ⟨_, _, _, _, same⟩ := extendShell?_eq_some absorbs
      rw [same] at isOpen
      exact (inTask isOpen).absorb absorbs
  | none =>
      rw [push_of_outside absorbs] at item isOpen ⊢
      have noShell := tracker.flushShell_state.1
      obtain ⟨samePlay, sameKind⟩ := tracker.flushShell_play_kind
      unfold startsTask at begins item
      simp only [absorbs, Option.isNone_none, Bool.true_and] at begins item
      generalize tracker.flushShell = closed at *
      by_cases isBlank : token.role = .blank
      · rw [pushOutsideShell, if_pos isBlank] at isOpen ⊢
        unfold pushBlank at isOpen ⊢
        dsimp only at isOpen ⊢
        split at isOpen
        · next canonical =>
            rw [if_pos canonical]
            exact still isOpen
        · next incremental =>
            rw [if_neg incremental]
            split at isOpen
            · next kept =>
                rw [if_pos kept]
                exact (still isOpen).emitLine not_isActionLine_nil
            · next dropped =>
                rw [if_neg dropped]
                exact still isOpen
      · cases takes : closed.takeNested? token with
        | some taken =>
            rw [pushOutsideShell_of_taken isBlank takes] at isOpen ⊢
            rw [task_takeNested? takes] at isOpen
            exact (still isOpen).takeNested? takes
        | none =>
            rw [pushOutsideShell_of_apart isBlank takes] at item isOpen ⊢
            simp only [takes, isBlank, decide_not, decide_false, Bool.not_false,
              Option.isNone_none, Bool.and_self, Bool.true_and] at begins item
            have leaves := closed.adds_leave token
            obtain ⟨shell, play', kind⟩ := closed.leave_state token
            have ready : Ready floor (closed.leave token) := by
              refine ⟨shell.trans noShell, leaves.reopened.trans fresh, fun task => ?_,
                fun noTask => ?_⟩
              · refine (still ?_).leave task
                rcases (closed.task_leave token).1 with same | none
                · rwa [← same]
                · rw [none] at task
                  cases task
              · have placed := (closed.leave token).taskStep_place token
                rw [leaves.out, List.append_nil]
                refine begins ?_
                by_contra noStart
                rw [TaskStep, if_neg noStart, noTask, or_self] at placed
                rw [placed] at isOpen
                cases isOpen
            refine ready.place classified (fun dashed isHeader isPlaybook => ?_) (fun starts => ?_)
              item isOpen
            · rw [play', samePlay]
              exact play dashed isHeader (sameKind ▸ kind ▸ isPlaybook)
            · rw [leaves.out, List.append_nil]
              exact begins starts

end Tracker

end PlaybookRepair
