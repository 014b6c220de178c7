import PlaybookRepair.Proofs.Tracker.Effect

/-!
# One line

A line of the source is absorbed by the open shell block, or the block is written and the line is
placed after it (`push_absorbs_or_flushes`), below an open key if it is part of the key's value. A
block is written in the place of earlier lines of its
own, or at the end, and closed; it is then the only block that the tracker remembers
(`closes_closeShell`).
-/

namespace PlaybookRepair.Tracker

theorem task_isSome_of_openAction {tracker : Tracker} {action : TaskAction}
    (remembered : tracker.openAction = some action) : tracker.nesting.task.isSome := by
  unfold openAction at remembered
  split at remembered
  · assumption
  · cases remembered

/-! ## Writing the open block -/

/-- A block that has not been written before is to be written at the end. -/
theorem shellPlacement_of_fresh {tracker : Tracker} (fresh : tracker.reopened = none) :
    tracker.shellPlacement =
      { start := tracker.out.length
        length := 0
        depth := tracker.nesting.keyColumn
        dashed := tracker.nesting.task.isSome && tracker.pendingDash } := by
  rw [shellPlacement, fresh]
  rfl

/-- The list marker of a task stands before the keys of the task. -/
theorem shellPlacement_aligned {tracker : Tracker} (fresh : tracker.reopened = none)
    (dashed : tracker.shellPlacement.dashed) : tracker.shellPlacement.depth = taskKeyColumn := by
  rw [shellPlacement_of_fresh fresh] at dashed ⊢
  have inTask := (Bool.and_eq_true_iff.mp dashed).1
  simp only [Nesting.keyColumn, Nesting.innermost, inTask, ↓reduceIte]

/-- What has changed when a shell block has been written: its lines stand in their place, perhaps
with a blank line at the end of the document, and no other block is remembered, nor is this one if it
is a bare key. -/
structure Closes (before : Tracker) (block : ShellBlock) (after : Tracker) : Prop where
  mode : after.mode = before.mode
  shell : after.nesting.shell = none
  reopened : after.reopened = none
  ambiguities : after.ambiguities = before.ambiguities
  out : ∃ blanks, (blanks = [] ∨ blanks = [[]]) ∧
    after.out = before.out.take before.shellPlacement.start ++
      shellLines before.mode block before.shellPlacement ++
      before.out.drop (before.shellPlacement.start + before.shellPlacement.length) ++ blanks
  remembers : ∀ closed placement, after.openAction = some (.shell closed placement) →
    closed = block ∧ placement =
      { before.shellPlacement with
        length := (shellLines before.mode block before.shellPlacement).length }
  notBare : ∀ closed placement, after.openAction = some (.shell closed placement) →
    block.isBare = false

/-- A block that has been written is what its task runs, unless it is a bare key. -/
theorem openAction_closeShell (tracker : Tracker) (block : ShellBlock) :
    (tracker.closeShell block).openAction = if tracker.nesting.task.isSome then
      some (if block.isBare then .other else .shell block
        { tracker.shellPlacement with
          length := (shellLines tracker.mode block tracker.shellPlacement).length })
      else none := by
  unfold closeShell
  dsimp only
  split <;> cases task : tracker.nesting.task <;>
    simp [openAction, emitLine, replaceLines, task]

theorem closes_closeShell (tracker : Tracker) (block : ShellBlock) :
    Closes tracker block (tracker.closeShell block) where
  mode := by unfold closeShell; dsimp only; split <;> rfl
  shell := by unfold closeShell; dsimp only; split <;> rfl
  reopened := by unfold closeShell; dsimp only; split <;> rfl
  ambiguities := by unfold closeShell; dsimp only; split <;> rfl
  out := by
    unfold closeShell
    dsimp only
    split
    · exact ⟨[[]], .inr rfl, rfl⟩
    · exact ⟨[], .inl rfl, (List.append_nil _).symm⟩
  remembers := by
    intro closed placement remembered
    rw [openAction_closeShell] at remembered
    split at remembered
    · split at remembered
      · cases remembered
      · cases remembered
        exact ⟨rfl, rfl⟩
    · cases remembered
  notBare := by
    intro closed placement remembered
    rw [openAction_closeShell] at remembered
    split at remembered
    · split at remembered
      · cases remembered
      · next notBare => exact Bool.eq_false_iff.mpr notBare
    · cases remembered

theorem flushShell_of_none {tracker : Tracker} (shell : tracker.nesting.shell = none) :
    tracker.flushShell = tracker := by
  rw [flushShell, shell]

theorem flushShell_of_some {tracker : Tracker} {block : ShellBlock}
    (shell : tracker.nesting.shell = some block) :
    tracker.flushShell = tracker.closeShell block := by
  rw [flushShell, shell]

/-- Writing the open block closes it and changes neither the mode nor the reports. -/
theorem flushShell_state (tracker : Tracker) :
    tracker.flushShell.nesting.shell = none ∧ tracker.flushShell.mode = tracker.mode ∧
      tracker.flushShell.ambiguities = tracker.ambiguities := by
  cases shell : tracker.nesting.shell with
  | none =>
      rw [flushShell_of_none shell]
      exact ⟨shell, rfl, rfl⟩
  | some block =>
      rw [flushShell_of_some shell]
      have closes := tracker.closes_closeShell block
      exact ⟨closes.shell, closes.mode, closes.ambiguities⟩

/-- Writing the open block changes neither the play nor the kind of the file. -/
theorem flushShell_play_kind (tracker : Tracker) :
    tracker.flushShell.nesting.play = tracker.nesting.play ∧
      tracker.flushShell.kind = tracker.kind := by
  unfold Tracker.flushShell
  split
  · unfold Tracker.closeShell
    dsimp only
    split <;> exact ⟨rfl, rfl⟩
  · exact ⟨rfl, rfl⟩

/-- The lines of the open block replace what stands in its place. -/
theorem flushShell_out {tracker : Tracker} {block : ShellBlock} {above old below : List Text}
    (shell : tracker.nesting.shell = some block) (out : tracker.out = above ++ old ++ below)
    (start : tracker.shellPlacement.start = above.length)
    (length : tracker.shellPlacement.length = old.length) :
    ∃ blanks, (blanks = [] ∨ blanks = [[]]) ∧
      tracker.flushShell.out =
        above ++ shellLines tracker.mode block tracker.shellPlacement ++ below ++ blanks := by
  rw [flushShell_of_some shell]
  obtain ⟨blanks, areBlank, written⟩ := (tracker.closes_closeShell block).out
  refine ⟨blanks, areBlank, ?_⟩
  rw [written, start, length, out, ← List.length_append, List.drop_left, List.append_assoc above,
    List.take_left]

/-! ## Absorbing a line -/

section

variable {tracker : Tracker} {block : ShellBlock} {token : LineToken}

theorem extendShell?_of_none (shell : tracker.nesting.shell = none) :
    tracker.extendShell? token = none := by
  rw [extendShell?, shell]

theorem extendShell?_of_blank (shell : tracker.nesting.shell = some block)
    (isBlank : token.role = .blank) :
    tracker.extendShell? token =
      some (tracker.withNesting { tracker.nesting with shell := some block.pushBlank }) := by
  unfold extendShell?
  rw [shell]
  dsimp only
  rw [if_pos isBlank, Option.map_some]

theorem extendShell?_of_accepts (shell : tracker.nesting.shell = some block)
    (notBlank : token.role ≠ .blank) (accepts : block.accepts token) :
    tracker.extendShell? token =
      some (tracker.withNesting { tracker.nesting with shell := some (block.push token) }) := by
  unfold extendShell?
  rw [shell]
  dsimp only
  rw [if_neg notBlank, if_pos accepts, Option.map_some]

theorem extendShell?_of_rejects (shell : tracker.nesting.shell = some block)
    (notBlank : token.role ≠ .blank) (rejects : block.accepts token = false) :
    tracker.extendShell? token = none := by
  unfold extendShell?
  rw [shell]
  dsimp only
  rw [if_neg notBlank, if_neg (by simp [rejects]), Option.map_none]

end

/-- What an open shell block absorbs is a blank line or a line that it accepts. -/
theorem extendShell?_eq_some {tracker extended : Tracker} {token : LineToken}
    (absorbs : tracker.extendShell? token = some extended) :
    ∃ block absorbed, tracker.nesting.shell = some block ∧
      (token.role = .blank ∧ absorbed = block.pushBlank ∨
        token.role ≠ .blank ∧ block.accepts token ∧ absorbed = block.push token) ∧
      extended = tracker.withNesting { tracker.nesting with shell := some absorbed } := by
  unfold extendShell? at absorbs
  split at absorbs
  · cases absorbs
  · next block shell =>
      obtain ⟨absorbed, found, rfl⟩ := Option.map_eq_some_iff.mp absorbs
      refine ⟨block, absorbed, shell, ?_, rfl⟩
      split at found
      · next isBlank =>
          cases found
          exact .inl ⟨isBlank, rfl⟩
      · next notBlank =>
          split at found
          · next accepts =>
              cases found
              exact .inr ⟨notBlank, accepts, rfl⟩
          · cases found

/-- A line that the open shell block does not absorb comes after the block. -/
theorem push_of_outside {tracker : Tracker} {token : LineToken}
    (outside : tracker.extendShell? token = none) :
    tracker.push token = tracker.flushShell.pushOutsideShell token := by
  rw [push, outside]

/-- Without an open shell block a line is placed outside of one. -/
theorem push_of_noShell {tracker : Tracker} {token : LineToken}
    (noShell : tracker.nesting.shell = none) :
    tracker.push token = tracker.pushOutsideShell token := by
  rw [push_of_outside (extendShell?_of_none noShell), flushShell_of_none noShell]

theorem push_of_absorbed {tracker extended : Tracker} {token : LineToken}
    (absorbs : tracker.extendShell? token = some extended) :
    tracker.push token = extended := by
  rw [push, absorbs]

/-! ## Values below a key -/

section

variable {tracker : Tracker} {key : OpenKey} {token : LineToken}

theorem takeNested?_of_closed (closed : tracker.nesting.openKey = none) :
    tracker.takeNested? token = none := by
  rw [takeNested?, closed]
  rfl

theorem takeNested?_of_apart (isOpen : tracker.nesting.openKey = some key)
    (apart : tracker.nestsUnder (keyAt key token) token = false) :
    tracker.takeNested? token = none := by
  unfold takeNested?
  rw [isOpen, Option.map_some]
  dsimp only
  rw [if_neg (by simp [apart])]

/-- A line of an open value is written below the key, as it is if it is text. -/
theorem takeNested?_of_nests (isOpen : tracker.nesting.openKey = some key)
    (nests : tracker.nestsUnder (keyAt key token) token) :
    tracker.takeNested? token =
      some ((tracker.emit (tracker.nestedColumn (keyAt key token) token)
        (if (keyAt key token).literal || (keyAt key token).innerLiteral.isSome then token.content
          else token.nestedText)).withNesting
            { tracker.nesting with
              openKey := some (keyAfter (keyAt key token) token
                (tracker.nestedColumn (keyAt key token) token)) }) := by
  unfold takeNested?
  rw [isOpen, Option.map_some]
  dsimp only
  rw [if_pos nests]
  rfl

end

/-! ## Lines outside a shell block -/

/-- The tracker without what a line ends by its column or by not being part of it. -/
def leave (tracker : Tracker) (token : LineToken) : Tracker :=
  let left := tracker.leaveKey token
  if left.mode = .incremental then left.closeByDedent token else left

/-- Leaving a task, its list or a value leaves neither the play nor a shell block. -/
theorem leave_state (tracker : Tracker) (token : LineToken) :
    (tracker.leave token).nesting.shell = tracker.nesting.shell ∧
      (tracker.leave token).nesting.play = tracker.nesting.play ∧
      (tracker.leave token).kind = tracker.kind := by
  have leftKey : (tracker.leaveKey token).nesting.shell = tracker.nesting.shell ∧
      (tracker.leaveKey token).nesting.play = tracker.nesting.play ∧
      (tracker.leaveKey token).kind = tracker.kind := by
    unfold leaveKey
    split <;> exact ⟨rfl, rfl, rfl⟩
  unfold leave
  dsimp only
  rw [← leftKey.1, ← leftKey.2.1, ← leftKey.2.2]
  generalize tracker.leaveKey token = left
  split
  · unfold closeByDedent
    split
    · exact ⟨rfl, rfl, rfl⟩
    · dsimp only
      split <;> split <;> exact ⟨rfl, rfl, rfl⟩
  · exact ⟨rfl, rfl, rfl⟩

/-- What a line leaves has nothing to do with what has been written. -/
theorem adds_leave (tracker : Tracker) (token : LineToken) :
    Adds tracker (tracker.leave token) [] := by
  unfold Tracker.leave
  dsimp only
  split
  · exact (tracker.adds_leaveKey token).trans (adds_closeByDedent _ token)
  · exact tracker.adds_leaveKey token

theorem pushOutsideShell_of_taken {tracker taken : Tracker} {token : LineToken}
    (notBlank : token.role ≠ .blank) (takes : tracker.takeNested? token = some taken) :
    tracker.pushOutsideShell token = taken := by
  rw [pushOutsideShell, if_neg notBlank, takes]

/-- A line that is not part of the open key's value is placed by its role. -/
theorem pushOutsideShell_of_apart {tracker : Tracker} {token : LineToken}
    (notBlank : token.role ≠ .blank) (apart : tracker.takeNested? token = none) :
    tracker.pushOutsideShell token = (tracker.leave token).place token := by
  rw [pushOutsideShell, if_neg notBlank, apart]
  rfl

/-- Outside a shell block a line only adds to what is written and reported. -/
theorem exists_adds_pushOutsideShell (tracker : Tracker) {token : LineToken}
    (classified : token.Classified) :
    ∃ ready lines, Adds tracker ready lines ∧
      (tracker.pushOutsideShell token).mode = ready.mode ∧
      (tracker.pushOutsideShell token).ambiguities = ready.ambiguities ∧
      (tracker.pushOutsideShell token).out = ready.out := by
  by_cases isBlank : token.role = .blank
  · rw [pushOutsideShell, if_pos isBlank]
    rcases tracker.adds_pushBlank with adds | adds
    · exact ⟨_, _, adds, rfl, rfl, rfl⟩
    · exact ⟨_, _, adds, rfl, rfl, rfl⟩
  · exact (effect_pushOutsideShell tracker classified
      (mt classified.role_eq_blank_iff.mpr isBlank)).exists_adds

/-- No line changes the mode, and none withdraws a report. -/
theorem push_mode_reports (tracker : Tracker) {token : LineToken} (classified : token.Classified) :
    (tracker.push token).mode = tracker.mode ∧
      tracker.ambiguities <+: (tracker.push token).ambiguities := by
  cases absorbs : tracker.extendShell? token with
  | some extended =>
      obtain ⟨block, absorbed, _, _, rfl⟩ := extendShell?_eq_some absorbs
      rw [push_of_absorbed absorbs]
      exact ⟨rfl, List.prefix_rfl⟩
  | none =>
      obtain ⟨_, isMode, same⟩ := tracker.flushShell_state
      obtain ⟨ready, lines, adds, mode, ambiguities, _⟩ :=
        tracker.flushShell.exists_adds_pushOutsideShell classified
      rw [push_of_outside absorbs, ← isMode, ← same, mode, ambiguities]
      exact ⟨adds.mode, adds.reports⟩

/-- A line is absorbed without anything being written, or the open block is written before it. -/
theorem push_absorbs_or_flushes (tracker : Tracker) {token : LineToken}
    (classified : token.Classified) :
    (∃ extended, tracker.extendShell? token = some extended ∧ tracker.push token = extended ∧
        extended.out = tracker.out ∧ extended.ambiguities = tracker.ambiguities ∧
        extended.nesting.shell.isSome) ∨
      tracker.extendShell? token = none ∧
        tracker.push token = tracker.flushShell.pushOutsideShell token ∧
        tracker.flushShell.nesting.shell = none ∧
        tracker.flushShell.out <+: (tracker.push token).out := by
  cases absorbs : tracker.extendShell? token with
  | some extended =>
      left
      obtain ⟨block, absorbed, _, _, rfl⟩ := extendShell?_eq_some absorbs
      exact ⟨_, rfl, push_of_absorbed absorbs, rfl, rfl, rfl⟩
  | none =>
      right
      refine ⟨rfl, push_of_outside absorbs, tracker.flushShell_state.1, ?_⟩
      obtain ⟨ready, lines, adds, _, _, out⟩ :=
        tracker.flushShell.exists_adds_pushOutsideShell classified
      rw [push_of_outside absorbs, out, adds.out]
      exact List.prefix_append _ _

end PlaybookRepair.Tracker
