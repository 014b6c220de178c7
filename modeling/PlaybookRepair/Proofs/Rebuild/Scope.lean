import PlaybookRepair.Proofs.Rebuild.Ledger
import PlaybookRepair.Proofs.Tracker.Task

/-!
# The scope of a task

The lines of the source since the one that has started the open task are the scope of that task, and
the lines that were written before it are its floor. A shell block that the tracker remembers or has
open in a task was gathered from lines of the scope, and the place of a block that has been written
is above the floor (`Tracker.Scoped`). A line that starts a task begins a new scope
(`scoped_of_started`), and any other line extends the scope (`Scoped.push`).
-/

namespace PlaybookRepair

open InlineValue (stripQuotes)

namespace Placement

/-- The lines stand at the place, with the others above and below them. -/
structure Spans (placement : Placement) (above lines below out : List Text) : Prop where
  out : out = above ++ lines ++ below
  start : placement.start = above.length
  length : placement.length = lines.length

section

variable {placement : Placement} {above lines below out : List Text}

theorem Spans.append (spans : placement.Spans above lines below out) (more : List Text) :
    placement.Spans above lines (below ++ more) (out ++ more) where
  out := by rw [spans.out, List.append_assoc _ below]
  start := spans.start
  length := spans.length

theorem Spans.le_length (spans : placement.Spans above lines below out) :
    placement.start + placement.length ≤ out.length := by
  rw [spans.out, spans.start, spans.length, List.length_append, List.length_append]
  omega

/-- What is cut out of a document at a place are the lines that stand there. -/
theorem Spans.slice (spans : placement.Spans above lines below out) :
    (out.drop placement.start).take placement.length = lines := by
  rw [spans.out, spans.start, spans.length, List.append_assoc, List.drop_left, List.take_left]

end

end Placement

namespace ShellBlock

/-- The block has opened on one of the lines and has gathered some of them, in their order. -/
def ComesFrom (block : ShellBlock) (lines : List LineToken) : Prop :=
  ∃ opener gathered, block.Gathered opener gathered ∧ opener ∈ lines ∧
    gathered.reduceOption.Sublist lines

section ComesFrom

variable {block : ShellBlock} {lines : List LineToken} {token : LineToken}

theorem ComesFrom.concat (comes : block.ComesFrom lines) (token : LineToken) :
    block.ComesFrom (lines ++ [token]) := by
  obtain ⟨opener, gathered, holds, member, sublist⟩ := comes
  exact ⟨opener, gathered, holds, List.mem_append_left _ member,
    sublist.trans (List.sublist_append_left ..)⟩

theorem ComesFrom.push (comes : block.ComesFrom lines) (hasContent : token.content ≠ []) :
    (block.push token).ComesFrom (lines ++ [token]) := by
  obtain ⟨opener, gathered, holds, member, sublist⟩ := comes
  refine ⟨opener, _, holds.push hasContent, List.mem_append_left _ member, ?_⟩
  rw [reduceOption_push]
  exact sublist.append_right [token]

theorem ComesFrom.pushBlank (comes : block.ComesFrom lines) : block.pushBlank.ComesFrom lines := by
  obtain ⟨opener, gathered, holds, member, sublist⟩ := comes
  exact ⟨opener, gathered, holds.pushBlank, member, sublist⟩

theorem ComesFrom.reopen (comes : block.ComesFrom lines) : block.reopen.ComesFrom lines := by
  obtain ⟨opener, gathered, holds, member, sublist⟩ := comes
  exact ⟨opener, gathered, holds.reopen, member, sublist⟩

end ComesFrom

/-! ## Longer scripts -/

/-- The first line with text stays the first one when lines are added. -/
theorem baseIndent_append {body : List ScriptLine} (hasText : ∃ line ∈ body, line.text ≠ [])
    (more : List ScriptLine) : baseIndent (body ++ more) = baseIndent body := by
  obtain ⟨line, member, text⟩ := hasText
  have found : (body.find? fun line => !line.text.isEmpty).isSome := by
    rw [List.find?_isSome]
    exact ⟨line, member, by simpa using text⟩
  rw [baseIndent, baseIndent, List.find?_append, Option.or_of_isSome found]

/-- The last line that a block has gathered has text. -/
theorem Gathered.hasText {block : ShellBlock} {opener : LineToken}
    {lines : List (Option LineToken)} (gathered : block.Gathered opener lines)
    (hasBody : block.body ≠ []) : ∃ line ∈ block.body, line.text ≠ [] := by
  have hasLines : lines.reduceOption ≠ [] := by
    rw [Ne, gathered.reduceOption_eq_nil_iff]
    rintro rfl
    exact hasBody gathered.body
  obtain ⟨token, member⟩ := List.exists_mem_of_ne_nil _ hasLines
  refine ⟨scriptLine token, ?_, gathered.contents token member⟩
  rw [gathered.body]
  exact List.mem_map_of_mem (f := bodyEntry) (List.reduceOption_mem_iff.mp member)

/-- A block that has gathered more lines is written with the lines that it had below its key, in the
same form, and the new ones after them. -/
theorem tail_shellLines_prefix {block old : ShellBlock} {opener : LineToken}
    {lines : List (Option LineToken)} {more : List ScriptLine}
    (gathered : old.Gathered opener lines) (same : block.SameHeader old)
    (body : block.body = old.body ++ more) (mode : RebuildMode) (placement : Placement) :
    (Tracker.shellLines mode old placement).tail <+:
      (Tracker.shellLines mode block placement).tail := by
  by_cases isShort : old.body = []
  · have noLines : lines = [] := by
      rw [← List.isEmpty_iff, ← gathered.body_isEmpty, isShort]
      rfl
    rw [shellLines_eq gathered, seedLines, isShort, noLines]
    exact List.nil_prefix
  · have isScript : ¬ (!old.explicit && old.body.isEmpty) := by simp [isShort]
    have goesOn : ¬ (!block.explicit && block.body.isEmpty) := by simp [body, isShort]
    have base : baseIndent block.body = baseIndent old.body := by
      rw [body, baseIndent_append (gathered.hasText isShort)]
    rw [Tracker.shellLines, Tracker.shellLines, render_of_script isScript,
      render_of_script goesOn]
    dsimp only [List.tail_cons]
    rw [base, same.inline, same.explicit, body]
    simp only [List.map_append]
    exact List.prefix_append_right_inj _ |>.mpr (List.prefix_append _ _)

/-- The inline command of a block that has gathered lines is the first line below its key. -/
theorem seed_prefix_shellLines {block : ShellBlock} (hasBody : block.body ≠ [])
    (mode : RebuildMode) (placement : Placement) :
    (block.inline.toList.map fun value =>
        indented (placement.depth + indentStep) (stripQuotes value)) <+:
      (Tracker.shellLines mode block placement).tail := by
  have isScript : ¬ (!block.explicit && block.body.isEmpty) := by simp [hasBody]
  rw [Tracker.shellLines, render_of_script isScript]
  dsimp only [List.tail_cons]
  rw [List.map_append, List.map_map]
  exact List.prefix_append _ _

end ShellBlock

namespace Tracker

/-- The block comes from the lines and stands at the place, with its lines as they were written
last, somewhere above the floor. -/
def Holds (tracker : Tracker) (floor : List Text) (lines : List LineToken) (block : ShellBlock)
    (placement : Placement) : Prop :=
  block.ComesFrom lines ∧ ∃ above below,
    placement.Spans (floor ++ above) (shellLines tracker.mode block placement) below tracker.out

/-- What the tracker remembers or has open in its task comes from the lines of the scope and stands
above the floor. -/
structure Scoped (floor : List Text) (lines : List LineToken) (tracker : Tracker) : Prop where
  kept : floor <+: tracker.out
  gathering : ∀ block, tracker.nesting.shell = some block → tracker.nesting.task.isSome →
    block.ComesFrom lines
  remembered : ∀ block placement, tracker.openAction = some (.shell block placement) →
    tracker.Holds floor lines block placement
  reopened : ∀ placement, tracker.reopened = some placement →
    ∃ block, tracker.Holds floor lines block placement

section

variable {tracker before after extended ready : Tracker} {floor more : List Text}
  {lines : List LineToken} {token : LineToken} {block : ShellBlock} {placement : Placement}

theorem Holds.concat (holds : tracker.Holds floor lines block placement) (token : LineToken) :
    tracker.Holds floor (lines ++ [token]) block placement :=
  ⟨holds.1.concat token, holds.2⟩

/-- A block stays where it is when lines are written after it. -/
theorem Holds.adds (holds : before.Holds floor lines block placement)
    (adds : Adds before after more) : after.Holds floor lines block placement := by
  obtain ⟨comes, above, below, spans⟩ := holds
  refine ⟨comes, above, below ++ more, ?_⟩
  rw [adds.mode, adds.out]
  exact spans.append more

theorem Scoped.concat (inScope : Scoped floor lines tracker) (token : LineToken) :
    Scoped floor (lines ++ [token]) tracker where
  kept := inScope.kept
  gathering block shell task := (inScope.gathering block shell task).concat token
  remembered block placement action := (inScope.remembered block placement action).concat token
  reopened placement reopened :=
    (inScope.reopened placement reopened).imp fun _ holds => holds.concat token

/-- The open block is to be written in the place of lines above the floor. -/
theorem Scoped.exists_spans (inScope : Scoped floor lines tracker) :
    ∃ above old below, tracker.shellPlacement.Spans (floor ++ above) old below tracker.out := by
  cases reopened : tracker.reopened with
  | none =>
      obtain ⟨above, out⟩ := inScope.kept
      refine ⟨above, [], [], ?_, ?_, ?_⟩
      · simp [out]
      · rw [shellPlacement_of_fresh reopened, out]
      · rw [shellPlacement_of_fresh reopened]
        rfl
  | some placement =>
      obtain ⟨block, _, above, below, spans⟩ := inScope.reopened placement reopened
      have place : tracker.shellPlacement = placement := by
        rw [shellPlacement, reopened]
        rfl
      exact ⟨above, _, below, place ▸ spans⟩

/-- A block that is written stands in its place, above the floor, and is the one that is
remembered. -/
theorem Scoped.flushShell (inScope : Scoped floor lines tracker) :
    Scoped floor lines tracker.flushShell := by
  cases shell : tracker.nesting.shell with
  | none =>
      rw [flushShell_of_none shell]
      exact inScope
  | some block =>
      obtain ⟨above, old, below, spans⟩ := inScope.exists_spans
      obtain ⟨blanks, _, out⟩ := flushShell_out shell spans.out spans.start spans.length
      have sameTask := tracker.task_flushShell
      rw [flushShell_of_some shell] at out sameTask ⊢
      have closes := tracker.closes_closeShell block
      refine ⟨?_, ?_, ?_, ?_⟩
      · rw [out]
        simp only [List.append_assoc]
        exact List.prefix_append _ _
      · intro other isOpen
        rw [closes.shell] at isOpen
        cases isOpen
      · intro closed placement remembered
        have task := task_isSome_of_openAction remembered
        obtain ⟨rfl, rfl⟩ := closes.remembers closed placement remembered
        refine ⟨inScope.gathering _ shell (sameTask ▸ task), above, below ++ blanks, ?_,
          spans.start, ?_⟩
        · rw [out, closes.mode, List.append_assoc _ below]
          rfl
        · rw [closes.mode]
          rfl
      · intro placement reopened
        rw [closes.reopened] at reopened
        cases reopened

theorem Scoped.adds (inScope : Scoped floor lines before) (shell : before.nesting.shell = none)
    (adds : Adds before after more) : Scoped floor lines after where
  kept := adds.out ▸ inScope.kept.trans (List.prefix_append _ _)
  gathering block isOpen := by
    rw [adds.shell, shell] at isOpen
    cases isOpen
  remembered block placement action :=
    (inScope.remembered block placement (adds.remembers block placement action)).adds adds
  reopened placement reopened :=
    (inScope.reopened placement (adds.reopened ▸ reopened)).imp fun _ holds => holds.adds adds

/-- The block that opens on a line comes from that line. -/
theorem Opens.comesFrom (opens : Opens token block) (hasContent : token.content ≠ [])
    (member : token ∈ lines) : block.ComesFrom lines := by
  obtain ⟨gathered, holds, script, _⟩ := opens.gathered hasContent
  refine ⟨token, gathered, holds, member, ?_⟩
  rw [← script, Script.start]
  dsimp only
  split
  · exact List.nil_sublist _
  · exact List.singleton_sublist.mpr member

/-- Opening a block leaves what has been written and what is remembered alone. -/
theorem Scoped.opens (inScope : Scoped floor lines ready) (comes : block.ComesFrom lines) :
    Scoped floor lines (ready.withNesting { ready.nesting with shell := some block }) where
  kept := inScope.kept
  gathering _ isOpen _ := Option.some.inj isOpen ▸ comes
  remembered := inScope.remembered
  reopened := inScope.reopened

/-- A block that a line joins is open again and has still its place. -/
theorem Scoped.joins (inScope : Scoped floor lines ready) (hasContent : token.content ≠ [])
    (remembered : ready.openAction = some (.shell block placement)) :
    Scoped floor (lines ++ [token])
      { ready with
        nesting := { ready.nesting with openKey := none, shell := some (block.reopen.push token) }
        taskAction := none
        reopened := some placement } where
  kept := inScope.kept
  gathering _ isOpen _ := Option.some.inj isOpen ▸
    (inScope.remembered block placement remembered).1.reopen.push hasContent
  remembered _ _ action := by
    simp [openAction] at action
  reopened _ isPlace := Option.some.inj isPlace ▸
    ⟨block, (inScope.remembered block placement remembered).concat token⟩

theorem Scoped.effect (inScope : Scoped floor lines before) (shell : before.nesting.shell = none)
    (hasContent : token.content ≠ []) (effect : Effect before token after) :
    Scoped floor (lines ++ [token]) after := by
  cases effect with
  | wrote _ _ _ _ adds => exact (inScope.adds shell adds).concat token
  | dropped _ _ adds => exact (inScope.adds shell adds).concat token
  | opened _ ready block _ adds opens isOpen =>
      subst isOpen
      exact ((inScope.adds shell adds).concat token).opens
        (opens.comesFrom hasContent (List.mem_append_right _ (List.mem_singleton_self token)))
  | rejoined ready block placement adds _ remembered isOpen =>
      subst isOpen
      exact (inScope.adds shell adds).joins hasContent remembered

theorem Scoped.absorb (inScope : Scoped floor lines tracker) (classified : token.Classified)
    (absorbs : tracker.extendShell? token = some extended) :
    Scoped floor (lines ++ [token]) extended := by
  obtain ⟨block, absorbed, shell, taken, rfl⟩ := extendShell?_eq_some absorbs
  have still := inScope.concat token
  refine ⟨inScope.kept, ?_, still.remembered, still.reopened⟩
  intro other isOpen task
  obtain rfl := Option.some.inj isOpen
  have comes := inScope.gathering block shell task
  rcases taken with ⟨_, rfl⟩ | ⟨notBlank, _, rfl⟩
  · exact comes.pushBlank.concat token
  · exact comes.push (mt classified.role_eq_blank_iff.mpr notBlank)

/-- **One line in the scope of a task.** Whatever the line does, the blocks of the task come from
its lines and stand above its floor. -/
theorem Scoped.push (inScope : Scoped floor lines tracker) (classified : token.Classified) :
    Scoped floor (lines ++ [token]) (tracker.push token) := by
  cases absorbs : tracker.extendShell? token with
  | some extended =>
      rw [push_of_absorbed absorbs]
      exact inScope.absorb classified absorbs
  | none =>
      have shell := tracker.flushShell_state.1
      rw [push_of_outside absorbs]
      by_cases isBlank : token.role = .blank
      · rw [pushOutsideShell, if_pos isBlank]
        rcases tracker.flushShell.adds_pushBlank with adds | adds
        · exact (inScope.flushShell.adds shell adds).concat token
        · exact (inScope.flushShell.adds shell adds).concat token
      · have hasContent := mt classified.role_eq_blank_iff.mpr isBlank
        exact inScope.flushShell.effect shell hasContent
          (effect_pushOutsideShell _ classified hasContent)

/-- A task that has just been started remembers nothing, and only a block that its first line has
opened can be open in it. -/
theorem scoped_of_started (shell : before.nesting.shell = none) (reopened : before.reopened = none)
    (hasContent : token.content ≠ []) (effect : Effect before token after)
    (started : Started before after) : Scoped before.out [token] after where
  kept := by
    obtain ⟨ready, lines, adds, _, _, out⟩ := effect.exists_adds
    rw [out, adds.out]
    exact List.prefix_append _ _
  gathering := by
    intro block isOpen _
    cases effect with
    | wrote _ _ _ _ adds =>
        rw [adds.shell, shell] at isOpen
        cases isOpen
    | dropped _ _ adds =>
        rw [adds.shell, shell] at isOpen
        cases isOpen
    | opened _ ready _ _ _ opens same =>
        subst same
        obtain rfl := Option.some.inj isOpen
        exact opens.comesFrom hasContent (List.mem_singleton_self token)
    | rejoined ready _ _ _ _ _ same =>
        have again := started.reopened
        rw [same, reopened] at again
        cases again
  remembered := by
    intro block placement remembered
    unfold openAction at remembered
    rw [if_pos started.task] at remembered
    exact (started.forgets block placement remembered).elim
  reopened := by
    intro placement again
    rw [started.reopened, reopened] at again
    cases again

end

end Tracker

end PlaybookRepair
