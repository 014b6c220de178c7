import PlaybookRepair.Proofs.Rebuild.Scope

/-!
# Rejoining a shell block

A shell block that has been written stays remembered with its place while its task is open, and a
later line of a script in the same task opens it again. At every point of a run the lines at a
remembered place are those in which the block was written last, and the block comes from lines of
the open task (`openTask_run`). A block that has been opened again has gathered the lines since then
in addition to its earlier ones, and nothing has been written in the meantime (`takenUp_run`).
Writing it therefore replaces its own lines, and no others, by lines that extend them
(`rejoining_local`).
-/

namespace PlaybookRepair

open InlineValue (stripQuotes)

namespace Rebuild

/-- The lines before the open task, the line that has started it, and the lines since, none of which
has started another task. -/
structure OpenTask (mode : RebuildMode) (kind : FileKind) (before : List LineToken)
    (first : LineToken) (rest : List LineToken) : Prop where
  starts : (trackerAfter mode kind before).startsTask first
  goesOn : ∀ done token later, rest = done ++ token :: later →
    ¬ (trackerAfter mode kind (before ++ first :: done)).startsTask token

/-- The block was opened again by a line of a script after the earlier lines, with its place
remembered from before; the lines since then have been added to it. None of them has started a task,
and nothing has been written. -/
structure TakenUp (mode : RebuildMode) (kind : FileKind) (earlier : List LineToken)
    (token : LineToken) (absorbed : List LineToken) (old block : ShellBlock)
    (placement : Placement) : Prop where
  isFragment : token.IsFragment
  remembered : (trackerAfter mode kind earlier).flushShell.openAction = some (.shell old placement)
  sameTask : ∀ done next later, token :: absorbed = done ++ next :: later →
    ¬ (trackerAfter mode kind (earlier ++ done)).startsTask next
  isOpen : (trackerAfter mode kind (earlier ++ token :: absorbed)).nesting.shell = some block
  out : (trackerAfter mode kind (earlier ++ token :: absorbed)).out =
    (trackerAfter mode kind earlier).flushShell.out
  header : block.SameHeader old
  body : ∃ lines : List (Option LineToken),
    block.body = old.body ++ lines.map ShellBlock.bodyEntry ∧
    lines.reduceOption = contentLines (token :: absorbed)

section

variable {mode : RebuildMode} {kind : FileKind} {before earlier absorbed rest : List LineToken}
  {first token next : LineToken} {old block : ShellBlock} {placement : Placement}

/-- What holds of a line after each part of a list before it holds for one more line. -/
theorem forall_split_concat {property : List LineToken → LineToken → Prop} {lines : List LineToken}
    (all : ∀ done token later, lines = done ++ token :: later → property done token)
    (last : property lines next) :
    ∀ done token later, lines ++ [next] = done ++ token :: later → property done token := by
  intro done token later split
  rcases List.eq_nil_or_concat later with rfl | ⟨init, final, rfl⟩
  · obtain ⟨rfl, same⟩ := List.append_inj' split rfl
    obtain rfl := List.singleton_inj.mp same
    exact last
  · rw [List.concat_eq_append, ← List.cons_append, ← List.append_assoc] at split
    obtain ⟨same, _⟩ := List.append_inj' split rfl
    exact all done token init same

theorem OpenTask.concat (openTask : OpenTask mode kind before first rest)
    (noStart : ¬ (trackerAfter mode kind (before ++ first :: rest)).startsTask next) :
    OpenTask mode kind before first (rest ++ [next]) where
  starts := openTask.starts
  goesOn := forall_split_concat openTask.goesOn noStart

/-- Lines that start no task belong to the open one. -/
theorem OpenTask.append (openTask : OpenTask mode kind before first rest) {more : List LineToken}
    (noStart : ∀ done next later, more = done ++ next :: later →
      ¬ (trackerAfter mode kind ((before ++ first :: rest) ++ done)).startsTask next) :
    OpenTask mode kind before first (rest ++ more) := by
  induction more using List.reverseRecOn with
  | nil => rwa [List.append_nil]
  | append_singleton more next ih =>
      rw [← List.append_assoc]
      refine (ih fun done next' later split => noStart done next' (later ++ [next]) ?_).concat ?_
      · rw [split, List.append_assoc]
        rfl
      · have last := noStart more next [] rfl
        rwa [List.append_assoc] at last

/-- Outside a shell block only a line of a script that joins a remembered block gives the block its
place back. -/
theorem rejoins_of_reopened {tracker : Tracker} (fresh : tracker.reopened = none)
    (classified : next.Classified)
    (reopened : (tracker.pushOutsideShell next).reopened = some placement) :
    next.IsFragment ∧ next.content ≠ [] ∧ ∃ old,
      tracker.openAction = some (.shell old placement) ∧
      (tracker.pushOutsideShell next).out = tracker.out ∧
      (tracker.pushOutsideShell next).nesting.shell = some (old.reopen.push next) := by
  have unchanged {ready : Tracker} {lines : List Text} (adds : Tracker.Adds tracker ready lines) :
      ready.reopened ≠ some placement := by
    rw [adds.reopened, fresh]
    nofun
  by_cases isBlank : next.role = .blank
  · rw [Tracker.pushOutsideShell, if_pos isBlank] at reopened
    rcases tracker.adds_pushBlank with adds | adds <;> exact (unchanged adds reopened).elim
  · have hasContent := mt classified.role_eq_blank_iff.mpr isBlank
    cases Tracker.effect_pushOutsideShell tracker classified hasContent with
    | wrote _ _ _ _ adds => exact (unchanged adds reopened).elim
    | dropped _ _ adds => exact (unchanged adds reopened).elim
    | opened _ _ _ _ adds _ isOpen =>
        rw [isOpen] at reopened
        exact (unchanged adds reopened).elim
    | rejoined ready old place adds isFragment remembered isOpen =>
        rw [isOpen] at reopened ⊢
        obtain rfl : place = placement := Option.some.inj reopened
        exact ⟨isFragment, hasContent, old, adds.remembers old place remembered,
          adds.out.trans (List.append_nil _), rfl⟩

/-- A line of a script takes up the block that it joins. -/
theorem takenUp_of_rejoined {done : List LineToken}
    (noStart : ¬ (trackerAfter mode kind done).startsTask next)
    (absorbs : (trackerAfter mode kind done).extendShell? next = none)
    (isFragment : next.IsFragment) (hasContent : next.content ≠ [])
    (remembered : (trackerAfter mode kind done).flushShell.openAction = some (.shell old placement))
    (out : ((trackerAfter mode kind done).flushShell.pushOutsideShell next).out =
      (trackerAfter mode kind done).flushShell.out)
    (shell : ((trackerAfter mode kind done).flushShell.pushOutsideShell next).nesting.shell =
      some (old.reopen.push next)) :
    TakenUp mode kind done next [] old (old.reopen.push next) placement where
  isFragment := isFragment
  remembered := remembered
  sameTask := by
    rintro (_ | ⟨_, _⟩) last later split
    · cases split
      rwa [List.append_nil]
    · simp at split
  isOpen := by rw [trackerAfter_concat, Tracker.push_of_outside absorbs, shell]
  out := by rw [trackerAfter_concat, Tracker.push_of_outside absorbs, out]
  header := (ShellBlock.SameHeader.refl old).reopen.push next
  body := by
    refine ⟨_, ShellBlock.body_push old.reopen next, ?_⟩
    rw [← List.nil_append (_ ++ [some next]), ← List.append_assoc, ShellBlock.reduceOption_push,
      contentLines, List.filter_cons_of_pos (by simpa)]
    rfl

/-- What a block absorbs after it has been taken up is added to it. -/
theorem TakenUp.concat {extended : Tracker}
    (takenUp : TakenUp mode kind earlier token absorbed old block placement)
    (classified : next.Classified)
    (noStart : ¬ (trackerAfter mode kind (earlier ++ token :: absorbed)).startsTask next)
    (absorbs : (trackerAfter mode kind (earlier ++ token :: absorbed)).extendShell? next =
      some extended) :
    ∃ grown, TakenUp mode kind earlier token (absorbed ++ [next]) old grown placement := by
  obtain ⟨last, grown, shell, taken, rfl⟩ := Tracker.extendShell?_eq_some absorbs
  obtain rfl : block = last := Option.some.inj (takenUp.isOpen.symm.trans shell)
  have pushed : trackerAfter mode kind (earlier ++ token :: (absorbed ++ [next])) =
      (trackerAfter mode kind (earlier ++ token :: absorbed)).withNesting
        { (trackerAfter mode kind (earlier ++ token :: absorbed)).nesting with
          shell := some grown } := by
    rw [← List.cons_append, ← List.append_assoc, trackerAfter_concat,
      Tracker.push_of_absorbed absorbs]
  obtain ⟨lines, body, gathered⟩ := takenUp.body
  refine ⟨grown, takenUp.isFragment, takenUp.remembered, ?_, pushed ▸ rfl, pushed ▸ takenUp.out,
    ?_, ?_⟩
  · exact forall_split_concat takenUp.sameTask noStart
  · rcases taken with ⟨_, rfl⟩ | ⟨_, _, rfl⟩
    · exact takenUp.header.pushBlank
    · exact takenUp.header.push next
  · rw [← List.cons_append]
    rcases taken with ⟨isBlank, rfl⟩ | ⟨notBlank, _, rfl⟩
    · refine ⟨lines, body, ?_⟩
      rw [gathered, contentLines_concat_of_nil (classified.role_eq_blank_iff.mp isBlank)]
    · refine ⟨lines ++ List.replicate block.takenBlanks none ++ [some next], ?_, ?_⟩
      · rw [ShellBlock.body_push, body, List.append_assoc, ← List.map_append,
          List.append_assoc lines]
      · rw [ShellBlock.reduceOption_push, gathered, contentLines_concat_of_ne_nil
          (mt classified.role_eq_blank_iff.mpr notBlank)]

/-- A block that a line has taken up holds that line. -/
theorem TakenUp.body_ne_nil (takenUp : TakenUp mode kind earlier token absorbed old block placement)
    (classified : token.Classified) : block.body ≠ [] := by
  obtain ⟨lines, body, gathered⟩ := takenUp.body
  have hasContent : token.content ≠ [] := by
    intro isBlank
    obtain ⟨family, role⟩ := takenUp.isFragment
    rw [classified.role_eq_blank_iff.mpr isBlank] at role
    cases role
  have hasLines : lines ≠ [] := by
    rintro rfl
    rw [contentLines, List.filter_cons_of_pos (by simpa using hasContent)] at gathered
    cases gathered
  rw [body]
  simp [hasLines]

end

variable (mode : RebuildMode) (kind : FileKind) (text : Text)

/-- A block that is closed has no earlier place to be written at. -/
theorem reopened_flushShell {done later : List LineToken}
    (split : tokens mode kind text = done ++ later) :
    (trackerAfter mode kind done).flushShell.reopened = none := by
  obtain ⟨_, ⟨_, recorded, _⟩, _⟩ := ledger_run mode kind text done later split
  obtain ⟨_, _, fresh, _⟩ := recorded.flushShell
  exact fresh

/-- **The open task of a run.** While a task is open, a line has started it and no line since has
started another; the shell blocks that the tracker remembers or has open come from these lines and
stand below what was written before them. -/
theorem openTask_run : ∀ done later, tokens mode kind text = done ++ later →
    (trackerAfter mode kind done).nesting.task.isSome →
    ∃ before first rest, done = before ++ first :: rest ∧ OpenTask mode kind before first rest ∧
      Tracker.Scoped (trackerAfter mode kind before).flushShell.out (first :: rest)
        (trackerAfter mode kind done) := by
  refine invariant mode kind text nofun ?_
  intro done token later split ih inTask
  have classified : token.Classified :=
    classified_of_mem (split ▸ List.mem_append_right _ List.mem_cons_self)
  have taskStep := (trackerAfter mode kind done).taskStep_push token
  rw [trackerAfter_concat] at inTask ⊢
  unfold Tracker.TaskStep at taskStep
  split at taskStep
  · next starts =>
      have absorbs : (trackerAfter mode kind done).extendShell? token = none := by
        simp only [Tracker.startsTask, Bool.and_eq_true, Option.isNone_iff_eq_none] at starts
        exact starts.1.1.1
      have notBlank : token.role ≠ .blank := by
        simp only [Tracker.startsTask, Bool.and_eq_true, decide_eq_true_eq] at starts
        exact starts.1.1.2
      have hasContent := mt classified.role_eq_blank_iff.mpr notBlank
      rw [Tracker.push_of_outside absorbs] at taskStep ⊢
      refine ⟨done, token, [], rfl, ⟨starts, fun _ _ _ split => by simp at split⟩, ?_⟩
      exact Tracker.scoped_of_started (trackerAfter mode kind done).flushShell_state.1
        (reopened_flushShell mode kind text split) hasContent
        (Tracker.effect_pushOutsideShell _ classified hasContent) taskStep
  · next noStart =>
      have stillOpen : (trackerAfter mode kind done).nesting.task.isSome := by
        rcases taskStep with same | closed
        · rwa [same, Tracker.task_flushShell] at inTask
        · rw [closed] at inTask
          cases inTask
      obtain ⟨before, first, rest, rfl, openTask, inScope⟩ := ih stillOpen
      exact ⟨before, first, rest ++ [token], by simp, openTask.concat noStart,
        inScope.push classified⟩

/-- **The history of a block that is open again.** A line of a script has taken the block up from
the place at which it is remembered, and every line since has been added to it. -/
theorem takenUp_run : ∀ done later, tokens mode kind text = done ++ later →
    ∀ placement, (trackerAfter mode kind done).reopened = some placement →
    ∃ earlier token absorbed old block, done = earlier ++ token :: absorbed ∧
      TakenUp mode kind earlier token absorbed old block placement := by
  refine invariant mode kind text nofun ?_
  intro done token later split ih placement reopened
  have classified : token.Classified :=
    classified_of_mem (split ▸ List.mem_append_right _ List.mem_cons_self)
  have taskStep := (trackerAfter mode kind done).taskStep_push token
  have fresh := reopened_flushShell mode kind text split
  rw [trackerAfter_concat] at reopened
  -- A line that starts a task closes the open block, and the new task remembers none.
  have noStart : ¬ (trackerAfter mode kind done).startsTask token := by
    intro starts
    rw [Tracker.TaskStep, if_pos starts] at taskStep
    rw [taskStep.reopened, fresh] at reopened
    cases reopened
  cases absorbs : (trackerAfter mode kind done).extendShell? token with
  | some extended =>
      rw [Tracker.push_of_absorbed absorbs] at reopened
      obtain ⟨_, _, _, _, rfl⟩ := Tracker.extendShell?_eq_some absorbs
      obtain ⟨earlier, opener, absorbed, old, block, rfl, takenUp⟩ := ih placement reopened
      obtain ⟨grown, grownUp⟩ := takenUp.concat classified noStart absorbs
      exact ⟨earlier, opener, absorbed ++ [token], old, grown, by simp, grownUp⟩
  | none =>
      rw [Tracker.push_of_outside absorbs] at reopened
      obtain ⟨isFragment, hasContent, old, remembered, out, shell⟩ :=
        rejoins_of_reopened fresh classified reopened
      exact ⟨done, token, [], old, _, rfl,
        takenUp_of_rejoined noStart absorbs isFragment hasContent remembered out shell⟩

/-- What the tracker remembers after some lines, with the open block written or not, comes from the
lines of the open task and stands below what was written before them. -/
theorem holds_of_remembered {done later : List LineToken}
    (split : tokens mode kind text = done ++ later) {tracker : Tracker}
    (isState : tracker = trackerAfter mode kind done ∨
      tracker = (trackerAfter mode kind done).flushShell) {block : ShellBlock}
    {placement : Placement} (remembered : tracker.openAction = some (.shell block placement)) :
    ∃ before first rest, done = before ++ first :: rest ∧ OpenTask mode kind before first rest ∧
      tracker.mode = mode ∧ tracker.Holds (trackerAfter mode kind before).flushShell.out
        (first :: rest) block placement := by
  have inTask : (trackerAfter mode kind done).nesting.task.isSome := by
    have task := Tracker.task_isSome_of_openAction remembered
    rcases isState with rfl | rfl
    · exact task
    · rwa [Tracker.task_flushShell] at task
  have isMode := trackerAfter_mode mode kind text done later split
  obtain ⟨before, first, rest, same, openTask, inScope⟩ :=
    openTask_run mode kind text done later split inTask
  refine ⟨before, first, rest, same, openTask, ?_⟩
  rcases isState with rfl | rfl
  · exact ⟨isMode, inScope.remembered block placement remembered⟩
  · exact ⟨(trackerAfter mode kind done).flushShell_state.2.1.trans isMode,
      inScope.flushShell.remembered block placement remembered⟩

/-- **Rejoining a shell block is a local edit.** At any point of a run, whether the open block has
been written or not, the place of a shell block that is remembered in the open task lies within the
lines that have been written. The lines there are those of the block, and the block comes from lines
of the open task. A block that is open again was remembered so when a later line of its task took it
up. Writing it replaces its own lines by its new ones, changes no other line, and keeps everything
below its key: the inline command, then the earlier lines, then those that have been added. -/
theorem rejoining_local {done later : List LineToken}
    (split : tokens mode kind text = done ++ later) :
    (∀ tracker, tracker = trackerAfter mode kind done ∨
        tracker = (trackerAfter mode kind done).flushShell →
      ∀ block placement, tracker.openAction = some (.shell block placement) →
        placement.start + placement.length ≤ tracker.out.length ∧
        (tracker.out.drop placement.start).take placement.length =
          Tracker.shellLines mode block placement ∧
        ∃ before first rest, done = before ++ first :: rest ∧
          OpenTask mode kind before first rest ∧ block.ComesFrom (first :: rest) ∧
          (trackerAfter mode kind before).flushShell.out.length ≤ placement.start) ∧
    ∀ placement, (trackerAfter mode kind done).reopened = some placement →
      ∃ before first rest token absorbed old block above below blanks,
        done = before ++ first :: rest ++ token :: absorbed ∧
        OpenTask mode kind before first (rest ++ token :: absorbed) ∧
        old.ComesFrom (first :: rest) ∧
        TakenUp mode kind (before ++ first :: rest) token absorbed old block placement ∧
        placement.start + placement.length ≤ (trackerAfter mode kind done).out.length ∧
        placement.Spans above (Tracker.shellLines mode old placement) below
          (trackerAfter mode kind done).out ∧
        (trackerAfter mode kind done).flushShell.out =
          above ++ Tracker.shellLines mode block placement ++ below ++ blanks ∧
        (blanks = [] ∨ blanks = [[]]) ∧
        (Tracker.shellLines mode old placement).tail <+:
          (Tracker.shellLines mode block placement).tail ∧
        (old.inline.toList.map fun value =>
            indented (placement.depth + indentStep) (stripQuotes value)) <+:
          (Tracker.shellLines mode block placement).tail := by
  constructor
  · intro tracker isState block placement remembered
    obtain ⟨before, first, rest, same, openTask, isMode, comes, above, below, spans⟩ :=
      holds_of_remembered mode kind text split isState remembered
    rw [isMode] at spans
    refine ⟨spans.le_length, spans.slice, before, first, rest, same, openTask, comes, ?_⟩
    rw [spans.start, List.length_append]
    exact Nat.le_add_right _ _
  · intro placement reopened
    obtain ⟨earlier, token, absorbed, old, block, rfl, takenUp⟩ :=
      takenUp_run mode kind text done later split placement reopened
    have splitEarlier : tokens mode kind text = earlier ++ (token :: absorbed ++ later) := by
      rw [split, List.append_assoc]
    obtain ⟨before, first, rest, rfl, openTask, isMode, comes, above, below, spans⟩ :=
      holds_of_remembered mode kind text splitEarlier (.inr rfl) takenUp.remembered
    rw [isMode, ← takenUp.out] at spans
    have place :
        (trackerAfter mode kind (before ++ first :: rest ++ token :: absorbed)).shellPlacement =
          placement := by
      rw [Tracker.shellPlacement, reopened]
      rfl
    obtain ⟨blanks, areBlank, written⟩ := Tracker.flushShell_out takenUp.isOpen spans.out
      (place ▸ spans.start) (place ▸ spans.length)
    rw [place, trackerAfter_mode mode kind text _ later split] at written
    obtain ⟨opener, gathered, holds, _⟩ := id comes
    obtain ⟨lines, body, _⟩ := takenUp.body
    have member : token ∈ tokens mode kind text := by
      rw [split]
      simp
    refine ⟨before, first, rest, token, absorbed, old, block, _, below, blanks, rfl,
      openTask.append takenUp.sameTask, comes, takenUp, spans.le_length, spans, written, areBlank,
      ShellBlock.tail_shellLines_prefix holds takenUp.header body mode placement, ?_⟩
    rw [← takenUp.header.inline]
    exact ShellBlock.seed_prefix_shellLines (takenUp.body_ne_nil (classified_of_mem member))
      mode placement

/-- In a task that runs a one-line command a later line of a script makes it a block, in the place
of the command. -/
theorem rejoining_local_command :
    let text := "- name: a\n  shell: ls\n  register: out\n  dnf install foo\n".toList
    let done := tokens .incremental .taskList text
    let before := trackerAfter .incremental .taskList (done.take 3)
    let after := trackerAfter .incremental .taskList (done.take 4)
    (∃ block placement, before.openAction = some (.shell block placement) ∧
      (before.out.drop placement.start).take placement.length = ["    shell: ls".toList]) ∧
    ∃ placement above below blanks, after.reopened = some placement ∧
      after.flushShell.out = above ++ ["    shell: |".toList, "      ls".toList,
        "      dnf install foo".toList] ++ below ++ blanks := by
  intro text done before after
  have split (count : Nat) : done = done.take count ++ done.drop count :=
    (List.take_append_drop count done).symm
  constructor
  · have remembered : before.openAction = some (.shell
        { key := "shell".toList
          indicator := "|".toList
          startIndent := 2
          explicit := false
          inline := some "ls".toList
          body := []
          pendingBlanks := 0 }
        { start := 1, length := 1, depth := 4, dashed := false }) := by
      decide +kernel
    obtain ⟨_, lines, _⟩ := (rejoining_local .incremental .taskList text (split 3)).1 before
      (.inl rfl) _ _ remembered
    exact ⟨_, _, remembered, lines.trans (by decide +kernel)⟩
  · have reopened : after.reopened = some
        { start := 1, length := 1, depth := 4, dashed := false } := by
      decide +kernel
    have shell : after.nesting.shell = some
        { key := "shell".toList
          indicator := "|".toList
          startIndent := 2
          explicit := false
          inline := some "ls".toList
          body := [⟨2, "dnf install foo".toList⟩]
          pendingBlanks := 0 } := by
      decide +kernel
    obtain ⟨_, _, _, _, _, _, block, above, below, blanks, same, _, _, takenUp, _, _, written, _⟩ :=
      (rejoining_local .incremental .taskList text (split 4)).2 _ reopened
    have isOpen := takenUp.isOpen
    rw [← same] at isOpen
    obtain rfl := Option.some.inj (isOpen.symm.trans shell)
    exact ⟨_, above, below, blanks, reopened, written⟩

end Rebuild

end PlaybookRepair
