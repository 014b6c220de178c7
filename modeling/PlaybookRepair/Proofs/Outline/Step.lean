import PlaybookRepair.Proofs.Outline.Role

/-!
# One line and the outline

Every line of the source keeps the outline of the document (`Tracker.Outlined.push`): values stand
below their keys, and an open shell block is written before a line that it does not absorb. A block
that is written again gives way to a block at the same place.
-/

namespace PlaybookRepair.Tracker

open Outline

variable {source done : List LineToken} {part : Part} {tracker : Tracker} {token : LineToken}

/-! ## Values below a key -/

section

variable {key : OpenKey} (stands : KeyStands tracker.mode part key.depth)
  (inner : ∀ inner, key.innerLiteral = some inner → KeyStands tracker.mode part inner.depth)
include stands inner

/-- A line below a key stands deeper than the key can stand. -/
theorem nestedColumn_stands (frame : Frame part tracker) (token : LineToken) :
    part = .outside ∧ 0 < tracker.nestedColumn key token ∨
      part.IsStarted ∧ taskKeyColumn ≤ tracker.nestedColumn key token := by
  unfold nestedColumn
  cases mode : tracker.mode with
  | incremental =>
      obtain rfl := frame.started mode
      rcases stands with outside | ⟨isStarted, _, deep⟩
      · cases outside
      · exact .inr ⟨isStarted, (deep mode).trans (Nat.le_add_right _ _)⟩
  | canonical =>
      have column : KeyStands tracker.mode part
          ((key.innerLiteral.map (·.depth)).getD key.depth) := by
        cases isInner : key.innerLiteral with
        | none => exact stands
        | some nested => exact inner nested isInner
      rcases column with outside | ⟨isStarted, deep, _⟩
      · exact .inl ⟨outside, Nat.succ_pos _⟩
      · exact .inr ⟨isStarted, Nat.add_le_add_right deep indentStep⟩

/-- A block scalar among the lines below a key stands where they stand. -/
theorem keyAfter_stands {column : Nat}
    (below : part = .outside ∧ 0 < column ∨ part.IsStarted ∧ taskKeyColumn ≤ column)
    (token : LineToken) :
    KeyStands tracker.mode part (keyAfter key token column).depth ∧
      ∀ nested, (keyAfter key token column).innerLiteral = some nested →
        KeyStands tracker.mode part nested.depth := by
  unfold keyAfter
  split
  · refine ⟨stands, fun nested isNested => ?_⟩
    obtain rfl := Option.some.inj isNested
    refine below.imp (·.1) fun ⟨isStarted, deep⟩ => ⟨isStarted, ?_⟩
    have deeper := deep.trans (Nat.le_add_right column (if token.dashed then indentStep else 0))
    exact ⟨(show playKeyColumn ≤ taskKeyColumn by decide).trans deeper, fun _ => deeper⟩
  · exact ⟨stands, inner⟩

end

section

variable (outlined : Outlined source done tracker) (noShell : tracker.nesting.shell = none)
include outlined noShell

theorem Outlined.takeNested? {taken : Tracker} (takes : tracker.takeNested? token = some taken) :
    Outlined source done taken := by
  obtain ⟨part, written, frame, keys⟩ := outlined.laid
  unfold Tracker.takeNested? at takes
  split at takes
  · cases takes
  · next key isKey =>
      obtain ⟨above, isOpen, rfl⟩ := Option.map_eq_some_iff.mp isKey
      obtain ⟨keyStands, innerStands⟩ := keys.openKey above isOpen
      have stands : KeyStands tracker.mode part (keyAt above token).depth := keyStands
      have stillStands : ∀ inner, (keyAt above token).innerLiteral = some inner →
          KeyStands tracker.mode part inner.depth :=
        fun inner isInner => innerStands inner (Option.filter_eq_some_iff.mp isInner).1
      split at takes
      · cases takes
        have below := nestedColumn_stands stands stillStands frame token
        refine outlined.keep noShell ⟨part, written.emit_below below, { frame with }, ?_⟩ rfl id rfl
        refine { keys with openKey := fun key isOpen => ?_ }
        obtain rfl := Option.some.inj isOpen
        exact keyAfter_stands stands stillStands below token
      · cases takes

/-- What a line leaves was open. -/
theorem Outlined.leave (token : LineToken) : Outlined source done (tracker.leave token) := by
  have leftKey : Outlined source done (tracker.leaveKey token) := by
    unfold leaveKey
    split
    · exact outlined
    · exact outlined.keep noShell outlined.laid.closeKey rfl id rfl
  have leftShell : (tracker.leaveKey token).nesting.shell = none :=
    (tracker.adds_leaveKey token).shell.trans noShell
  unfold Tracker.leave
  dsimp only
  generalize tracker.leaveKey token = left at leftKey leftShell
  split
  · unfold closeByDedent
    split
    · exact leftKey
    · dsimp only
      have leftTask : Outlined source done
          (if left.leavesTask token then left.closeTask else left) ∧
          (if left.leavesTask token then left.closeTask else left).nesting.shell = none := by
        split
        · exact ⟨leftKey.keep leftShell leftKey.laid.closeTask rfl nofun rfl, leftShell⟩
        · exact ⟨leftKey, leftShell⟩
      generalize (if left.leavesTask token then left.closeTask else left) = inSection at leftTask
      split
      · next leaves =>
          simp only [leavesSection, Bool.and_eq_true, Option.isNone_iff_eq_none] at leaves
          have closed := leftTask.1.laid.leaveTask
            { inSection.nesting with taskSection := none } inSection.pendingDash
            leaves.1.2 id nofun (.inl rfl)
          exact leftTask.1.keep leftTask.2 closed rfl id rfl
      · exact leftTask.1
  · exact leftKey

end

/-- An empty line may follow in a list of tasks. -/
theorem Laid.emitBlank (laid : Laid source done tracker)
    (incremental : tracker.mode = .incremental) : Laid source done (tracker.emitLine []) := by
  obtain ⟨part, written, frame, keys⟩ := laid
  have isStarted : part.IsStarted := by
    rw [frame.started incremental]
    nofun
  exact ⟨part, written.emitLine (.inner isStarted (.inl rfl)), { frame with },
    keys.narrow rfl (.inl rfl) (.inl rfl)⟩

theorem Outlined.pushBlank (outlined : Outlined source done tracker)
    (noShell : tracker.nesting.shell = none) : Outlined source done tracker.pushBlank := by
  unfold Tracker.pushBlank
  dsimp only
  split
  · exact outlined
  · next notCanonical =>
      have incremental : tracker.mode = .incremental := by
        cases mode : tracker.mode with
        | incremental => rfl
        | canonical => exact (notCanonical mode).elim
      split
      · exact outlined.keep noShell (outlined.laid.emitBlank incremental) rfl id rfl
      · exact outlined

/-! ## Shell blocks that are written -/

/-- The place of a block that is open again holds the lines of a block. -/
def HoldsBlock (tracker : Tracker) : Prop :=
  ∀ placement, tracker.reopened = some placement → ∃ old above below,
    placement.Spans (leading tracker.mode ++ above) (shellLines tracker.mode old placement) below
      tracker.out

/-- The lines of a block that is open again give way to its new ones. -/
theorem Written.replace {placement : Placement} {old : ShellBlock} {above below : List Text}
    (written : Written source done tracker part) (block : ShellBlock)
    (spans : placement.Spans (leading tracker.mode ++ above)
      (shellLines tracker.mode old placement) below tracker.out)
    (inTask : placement.depth = taskKeyColumn) :
    Written source done
      (tracker.replaceLines placement (shellLines tracker.mode block placement)) part := by
  obtain ⟨rows, out, path, copied⟩ := written
  have texts : rows.map Row.text =
      above ++ shellLines tracker.mode old placement ++ below := by
    have whole := out.symm.trans spans.out
    rw [List.append_assoc, List.append_assoc] at whole
    rw [List.append_cancel_left whole, List.append_assoc]
  obtain ⟨upper, lower, rfl, isUpper, isBelow⟩ := List.map_eq_append_iff.mp texts
  obtain ⟨before, there, rfl, isAbove, isThere⟩ := List.map_eq_append_iff.mp isUpper
  obtain ⟨second, pathUpper, pathBelow⟩ := path.split
  obtain ⟨first, pathAbove, pathThere⟩ := pathUpper.split
  refine ⟨before ++ fresh (shellLines tracker.mode block placement) ++ lower, ?_, ?_, ?_⟩
  · simp only [replaceLines]
    rw [spans.out, spans.start, spans.length, ← List.length_append, List.drop_left,
      List.append_assoc (_ ++ above), List.take_left, List.map_append, List.map_append,
      map_text_fresh, isAbove, isBelow]
    simp only [List.append_assoc]
  · exact (pathAbove.append (pathThere.replace_shellLines _ block isThere inTask)).append pathBelow
  · simp only [List.filterMap_append, filterMap_copied_fresh, List.append_nil] at copied ⊢
    exact ((List.sublist_append_left _ _).append_right _).trans copied

/-- A block is written in the place of its earlier lines, as the next line of its task, or outside of
plays. -/
theorem Outlined.writeBlock (outlined : Outlined source done tracker) {block : ShellBlock}
    (shell : tracker.nesting.shell = some block) (holds : HoldsBlock tracker) :
    ∃ next, Written source done (tracker.replaceLines tracker.shellPlacement
        (shellLines tracker.mode block tracker.shellPlacement)) next ∧
      Frame next tracker ∧ Keys next tracker ∧ next.IsStarted ∧
      (tracker.nesting.task.isSome → tracker.shellPlacement.depth = taskKeyColumn) ∧
      (next = .outside ∨ tracker.shellPlacement.depth = taskKeyColumn) := by
  obtain ⟨part, written, frame, keys⟩ := outlined.laid
  cases reopened : tracker.reopened with
  | some placement =>
      have place : tracker.shellPlacement = placement := by
        rw [shellPlacement, reopened]
        rfl
      obtain ⟨old, above, below, spans⟩ := holds placement reopened
      obtain ⟨inTask, isStarted⟩ := frame.reopened placement reopened
      rw [place]
      exact ⟨part, written.replace block spans inTask, frame, keys, isStarted, fun _ => inTask,
        .inr inTask⟩
  | none =>
      have place := shellPlacement_of_fresh reopened
      have out (lines : List Text) :
          (tracker.replaceLines tracker.shellPlacement lines).out = tracker.out ++ lines := by
        simp [replaceLines, place]
      rcases outlined.gathering block shell with inTask | ⟨elsewhere, startsKey⟩
      · have depth : tracker.shellPlacement.depth = taskKeyColumn := by
          rw [place]
          simp [Nesting.keyColumn, Nesting.innermost, inTask]
        have dashed : tracker.shellPlacement.dashed = tracker.pendingDash := by
          rw [place, inTask]
          rfl
        have path : (if tracker.shellPlacement.dashed then part.HoldsTasks else part.IsStarted) →
            Outline.Path tracker.mode source part
              (fresh (shellLines tracker.mode block tracker.shellPlacement))
              (if tracker.shellPlacement.dashed then part.afterItem else part) :=
          path_shellLines tracker.mode block depth
        rw [dashed] at path
        cases pending : tracker.pendingDash with
        | true =>
            rw [if_pos pending, if_pos pending] at path
            have notOutside : part = .outside → part.afterItem = .outside := by
              rintro rfl
              rfl
            exact ⟨_, written.append _ (path (frame.task inTask).2) rfl rfl (out _),
              frame.afterItem, keys.move notOutside part.isStarted_afterItem,
              part.isStarted_afterItem, fun _ => depth, .inr depth⟩
        | false =>
            have isStarted : part.IsStarted := by
              intro isEmpty
              have := frame.pending isEmpty inTask
              rw [pending] at this
              cases this
            rw [if_neg (by simp [pending]), if_neg (by simp [pending])] at path
            exact ⟨_, written.append _ (path isStarted) rfl rfl (out _), frame, keys, isStarted,
              fun _ => depth, .inr depth⟩
      · obtain ⟨inPlaybook, noPlay, noTask, noSection⟩ := frame.outside_of_not_position elsewhere
        have depth : tracker.shellPlacement.depth = 0 := by
          rw [place]
          simp [Nesting.keyColumn, Nesting.innermost, noPlay, noTask, noSection]
        have notDashed : tracker.shellPlacement.dashed = false := by
          rw [place, noTask]
          rfl
        have path : Outline.Path tracker.mode source part
            (fresh (shellLines tracker.mode block tracker.shellPlacement)) .outside :=
          path_shellLines_outside tracker.mode block inPlaybook depth notDashed
            (ShellBlock.startsKey_headerText startsKey)
        refine ⟨.outside, written.append _ path rfl rfl (out _), frame.toOutside elsewhere,
          ?_, ?_, ?_, .inl rfl⟩
        · exact ⟨fun _ _ => .inl rfl, fun _ _ => ⟨.inl rfl, fun _ _ => .inl rfl⟩⟩
        · intro isEmpty
          cases isEmpty
        · intro inTask
          rw [noTask] at inTask
          cases inTask

theorem Laid.outlined_optionalBlank {condition : Prop} [Decidable condition]
    (laid : Laid source done tracker) (incremental : condition → tracker.mode = .incremental)
    (noShell : tracker.nesting.shell = none) (last : tracker.lastKeyColumn.isSome) :
    Outlined source done (if condition then tracker.emitLine [] else tracker) := by
  split
  · next isBlank => exact (laid.emitBlank (incremental isBlank)).outlined noShell fun _ => last
  · exact laid.outlined noShell fun _ => last

/-- A block that is closed leaves the outline as it should be. -/
theorem Outlined.closeShell (outlined : Outlined source done tracker) {block : ShellBlock}
    (shell : tracker.nesting.shell = some block) (holds : HoldsBlock tracker) :
    Outlined source done (tracker.closeShell block) := by
  obtain ⟨next, written, frame, keys, isStarted, inTask, depth⟩ := outlined.writeBlock shell holds
  have stands : KeyStands tracker.mode next tracker.shellPlacement.depth := by
    rcases depth with outside | depth
    · exact .inl outside
    · rw [depth]
      exact keyStands_task isStarted
  unfold Tracker.closeShell
  dsimp only
  refine Laid.outlined_optionalBlank ⟨next, written, ?_, ?_⟩ ?_ rfl rfl
  · refine { frame with
      pending := fun isEmpty => (isStarted isEmpty).elim
      remembered := fun closed placement remembered => ?_
      reopened := fun placement reopened => (Option.some_ne_none placement reopened.symm).elim }
    by_cases isTask : tracker.nesting.task.isSome
    · simp only [openAction, replaceLines, isTask, ↓reduceIte, Option.some.injEq] at remembered
      split at remembered
      · cases remembered
      · cases remembered
        exact ⟨inTask isTask, isStarted⟩
    · have inTask := task_isSome_of_openAction remembered
      exact (isTask inTask).elim
  · refine ⟨fun column last => ?_, fun key isOpen => ?_⟩
    · obtain rfl := Option.some.inj last
      exact stands.imp_right fun stays => ⟨isStarted, stays.2.1⟩
    · dsimp only at isOpen
      split at isOpen
      · obtain rfl := Option.some.inj isOpen
        refine ⟨stands, fun _ inner => ?_⟩
        cases inner
      · exact keys.openKey key isOpen
  · intro isBlank
    exact of_decide_eq_true (Bool.and_eq_true_iff.mp isBlank).1

/-- The open block is written before a line that it does not absorb. -/
theorem Outlined.flushShell (outlined : Outlined source done tracker) (holds : HoldsBlock tracker) :
    Outlined source done tracker.flushShell := by
  cases shell : tracker.nesting.shell with
  | none =>
      rw [flushShell_of_none shell]
      exact outlined
  | some block =>
      rw [flushShell_of_some shell]
      exact outlined.closeShell shell holds

/-! ## One line -/

/-- A line suits a state in which the same play is open. -/
theorem Outlined.suits (outlined : Outlined source done tracker) {other : Tracker}
    (suits : Suits tracker token) (play : other.nesting.play = tracker.nesting.play)
    (kind : other.kind = tracker.kind) : Suits other token where
  taskHeader dashed isHeader := by
    have position := suits.taskHeader dashed isHeader
    obtain ⟨part, _, frame, _⟩ := outlined.laid
    unfold atTaskPosition at position ⊢
    rw [kind, play]
    rcases frame.home with ⟨isPlaybook, _⟩ | ⟨isList, _⟩
    · rw [isPlaybook] at position ⊢
      exact position
    · rw [isList]
  playHeader isHeader := kind.trans (suits.playHeader isHeader)

/-- A block that absorbs a line stays open where it is. -/
theorem Outlined.absorb (outlined : Outlined source done tracker) {extended : Tracker}
    (absorbs : tracker.extendShell? token = some extended) : Outlined source done extended := by
  obtain ⟨block, absorbed, shell, taken, rfl⟩ := extendShell?_eq_some absorbs
  obtain ⟨part, written, frame, keys⟩ := outlined.laid
  refine ⟨⟨part, written, { frame with }, keys.narrow rfl (.inl rfl) (.inl rfl)⟩, nofun, ?_⟩
  intro other isOpen
  obtain rfl := Option.some.inj isOpen
  have sameKey : absorbed.key = block.key := by
    rcases taken with ⟨_, rfl⟩ | ⟨_, _, rfl⟩ <;> rfl
  rw [sameKey]
  exact outlined.gathering block shell

/-- **The outline after one line.** Every line keeps the document laid out. -/
theorem Outlined.push (outlined : Outlined source done tracker) (holds : HoldsBlock tracker)
    (classified : token.Classified) (member : token ∈ source) (suits : Suits tracker token) :
    Outlined source (done ++ [token]) (tracker.push token) := by
  cases absorbs : tracker.extendShell? token with
  | some extended =>
      rw [push_of_absorbed absorbs]
      exact (outlined.absorb absorbs).concat token
  | none =>
      rw [push_of_outside absorbs]
      have noShell := tracker.flushShell_state.1
      have flushed := outlined.flushShell holds
      by_cases isBlank : token.role = .blank
      · rw [pushOutsideShell, if_pos isBlank]
        exact (flushed.pushBlank noShell).concat token
      · cases takes : tracker.flushShell.takeNested? token with
        | some taken =>
            rw [pushOutsideShell_of_taken isBlank takes]
            exact (flushed.takeNested? noShell takes).concat token
        | none =>
            rw [pushOutsideShell_of_apart isBlank takes]
            obtain ⟨shell, play, kind⟩ := tracker.flushShell.leave_state token
            obtain ⟨samePlay, sameKind⟩ := tracker.flushShell_play_kind
            exact (flushed.leave noShell token).place (shell.trans noShell) classified
              (mt classified.role_eq_blank_iff.mpr isBlank) member
              (outlined.suits suits (play.trans samePlay) (kind.trans sameKind))

end PlaybookRepair.Tracker
