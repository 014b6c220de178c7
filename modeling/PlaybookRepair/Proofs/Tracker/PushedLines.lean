import PlaybookRepair.Proofs.ShellBlock
import PlaybookRepair.Proofs.Tracker.Columns

/-!
# The lines of one step

For one line of the source the tracker writes the open shell block, if the line does not belong to
it, and then the line by its place. `Tracker.pushInto` follows what this does to the lines that have
been written: a block goes over its earlier lines, and all other lines go behind those that are
there (`pushInto_text`).

In the canonical mode every line of a step is moved to one of the first levels
(`stands_pushedLines`). In the incremental mode, lines in a value of an open key and lines of a block
scalar keep their distance from others in the source; they are moved at most three steps further
right than they stood there (`column_pushedLines_le`).
-/

namespace PlaybookRepair

/-! ## Shell blocks -/

namespace ShellBlock

/-- No line of the script stood right of the given column. -/
def Narrow (widest : Nat) (block : ShellBlock) : Prop := ∀ line ∈ block.body, line.indent ≤ widest

variable {widest : Nat} {block : ShellBlock} {token : LineToken}

theorem narrow_ofModule (widest : Nat) (token : LineToken) : (ofModule token).Narrow widest :=
  fun _ member => nomatch member

theorem narrow_ofFragment (narrow : token.indent ≤ widest) : (ofFragment token).Narrow widest := by
  intro line member
  cases List.mem_singleton.mp member
  exact narrow

theorem Narrow.push (narrow : block.Narrow widest) (indent : token.indent ≤ widest) :
    (block.push token).Narrow widest := by
  intro line member
  rcases List.mem_append.mp member with member | member
  · rcases List.mem_append.mp member with member | member
    · exact narrow line member
    · split at member
      · cases member
      · rw [List.eq_of_mem_replicate member]
        exact Nat.zero_le _
  · cases List.mem_singleton.mp member
    exact indent

/-- The lines of a block stand at its key, one step right of it, or further right by as much as they
stood right of the first line of the script. -/
theorem offset_of_mem_render {keepRelative : Bool} {entry : Nat × Text}
    (member : entry ∈ block.render keepRelative) :
    entry.1 = 0 ∨ entry.1 = indentStep ∨
      keepRelative ∧ ∃ line ∈ block.body,
        entry.1 = indentStep + (line.indent - baseIndent block.body) := by
  by_cases isLine : !block.explicit && block.body.isEmpty
  · rw [render_of_line isLine] at member
    cases List.mem_singleton.mp member
    exact .inl rfl
  · rw [render_of_script isLine] at member
    rcases List.mem_cons.mp member with rfl | member
    · exact .inl rfl
    · rcases List.mem_append.mp member with seed | gathered
      · obtain ⟨value, -, rfl⟩ := List.mem_map.mp seed
        exact .inr (.inl rfl)
      · obtain ⟨line, inBody, rfl⟩ := List.mem_map.mp gathered
        split
        · exact .inl rfl
        · split
          · next keeps =>
              exact .inr (.inr ⟨(Bool.and_eq_true_iff.mp keeps).1, line, inBody, rfl⟩)
          · exact .inr (.inl rfl)

/-- A line of a block scalar of the source keeps its distance from the first line. -/
theorem mem_render_of_explicit {line : ScriptLine} (explicit : block.explicit)
    (inBody : line ∈ block.body) (hasText : line.text ≠ []) :
    ∃ below, block.render true = (0, block.headerText) :: below ∧
      (indentStep + (line.indent - baseIndent block.body), line.text) ∈ below := by
  have isScript : ¬ (!block.explicit && block.body.isEmpty) := by
    rw [explicit]
    exact Bool.false_ne_true
  refine ⟨_, render_of_script isScript true, List.mem_append_right _ ?_⟩
  refine List.mem_map.mpr ⟨line, inBody, ?_⟩
  rw [if_neg (by simpa using hasText), if_pos (by rw [explicit, Bool.and_true])]

end ShellBlock

namespace Tracker

/-- The lines of a block are those that are written. -/
theorem blockLines_text (mode : RebuildMode) (block : ShellBlock) (placement : Placement) :
    (blockLines mode block placement).map WrittenLine.text = shellLines mode block placement := by
  unfold blockLines shellLines
  cases block.render (mode = .incremental) with
  | nil => rfl
  | cons entry rest =>
      dsimp only
      rw [List.map_cons, List.map_map]
      congr 1
      split <;> rfl

/-- Where the lines of a block are moved to. -/
theorem moved_of_mem_blockLines {mode : RebuildMode} {block : ShellBlock} {placement : Placement}
    {line : WrittenLine} (member : line ∈ blockLines mode block placement) :
    (∃ text, line = .moved taskColumn text) ∨
      ∃ entry ∈ block.render (mode = .incremental),
        line = .moved (placement.depth + entry.1) entry.2 := by
  unfold blockLines at member
  split at member
  · cases member
  · next offset text rest isRendered =>
      rw [isRendered]
      rcases List.mem_cons.mp member with rfl | member
      · split
        · exact .inl ⟨_, rfl⟩
        · exact .inr ⟨_, List.mem_cons_self, rfl⟩
      · obtain ⟨entry, inRest, rfl⟩ := List.mem_map.mp member
        exact .inr ⟨entry, List.mem_cons_of_mem _ inRest, rfl⟩

variable {tracker : Tracker} {token : LineToken}

theorem Aligned.shellPlacement (aligned : tracker.Aligned) :
    OnLevel 2 tracker.shellPlacement.depth := by
  unfold Tracker.shellPlacement
  cases isReopened : tracker.reopened with
  | none => exact onLevel_keyColumn tracker.nesting
  | some placement => exact aligned.reopened placement isReopened

theorem lastKeyColumn_closeShell (tracker : Tracker) (block : ShellBlock) :
    (tracker.closeShell block).lastKeyColumn = some tracker.shellPlacement.depth := by
  unfold closeShell
  dsimp only
  split <;> rfl

/-- The key below which the lines after a block may be nested: the block's, if it is a bare key. -/
theorem openKey_closeShell (tracker : Tracker) (block : ShellBlock) :
    (tracker.closeShell block).nesting.openKey =
      if block.isBare then
        some
          { sourceIndent := block.startIndent
            depth := tracker.shellPlacement.depth
            literal := false }
      else tracker.nesting.openKey := by
  unfold closeShell
  dsimp only
  split <;> rfl

theorem taskAction_closeShell (tracker : Tracker) (block : ShellBlock) :
    (tracker.closeShell block).taskAction = if tracker.nesting.task.isSome then
      some (if block.isBare then .other else .shell block
        { tracker.shellPlacement with
          length := (shellLines tracker.mode block tracker.shellPlacement).length })
      else tracker.taskAction := by
  unfold closeShell
  dsimp only
  split <;> rfl

/-- A block that is written is remembered where it stands. -/
theorem Aligned.closeShell (aligned : tracker.Aligned) (block : ShellBlock) :
    (tracker.closeShell block).Aligned := by
  have closes := tracker.closes_closeShell block
  have depth := aligned.shellPlacement
  refine
    { lastKey := fun column isLast => ?_
      openKey := fun key isOpen => ?_
      innerKey := fun canonical key inner isOpen isInner => ?_
      remembered := fun closed placement isAction => ?_
      reopened := fun placement isReopened => ?_ }
  · rw [lastKeyColumn_closeShell] at isLast
    cases isLast
    exact depth
  · rw [openKey_closeShell] at isOpen
    split at isOpen
    · cases isOpen
      exact depth
    · exact aligned.openKey key isOpen
  · rw [openKey_closeShell] at isOpen
    split at isOpen
    · cases isOpen
      cases isInner
    · exact aligned.innerKey (closes.mode ▸ canonical) key inner isOpen isInner
  · rw [taskAction_closeShell] at isAction
    split at isAction
    · split at isAction
      · cases isAction
      · cases isAction
        exact depth
    · exact aligned.remembered closed placement isAction
  · rw [closes.reopened] at isReopened
    cases isReopened

theorem Aligned.flushShell (aligned : tracker.Aligned) : tracker.flushShell.Aligned := by
  cases shell : tracker.nesting.shell with
  | none => rwa [flushShell_of_none shell]
  | some block =>
      rw [flushShell_of_some shell]
      exact aligned.closeShell block

/-- In the canonical mode the lines of a block stand at its key or one step right of it. -/
theorem stands_flushedLines (aligned : tracker.Aligned) (canonical : tracker.mode = .canonical) :
    ∀ line ∈ tracker.flushedLines, line.Stands .canonical 3 := by
  intro line member
  unfold flushedLines blankBehind at member
  rw [canonical] at member
  split at member
  · next block shell =>
      rw [if_neg (by simp), List.append_nil] at member
      have depth := aligned.shellPlacement
      rcases moved_of_mem_blockLines member with ⟨text, rfl⟩ | ⟨entry, rendered, rfl⟩
      · exact onLevel_taskColumn
      · rcases ShellBlock.offset_of_mem_render rendered with isKey | isBody | ⟨keeps, -⟩
        · rw [isKey]
          exact depth.add 1
        · rw [isBody]
          exact depth.deeper
        · cases keeps
  · cases member

/-- The lines below the key of a block are moved to their columns below it. -/
theorem mem_blockLines {mode : RebuildMode} {block : ShellBlock} {placement : Placement}
    {first entry : Nat × Text} {rest : List (Nat × Text)}
    (rendered : block.render (mode = .incremental) = first :: rest) (member : entry ∈ rest) :
    .moved (placement.depth + entry.1) entry.2 ∈ blockLines mode block placement := by
  unfold blockLines
  rw [rendered]
  exact List.mem_cons_of_mem _ (List.mem_map_of_mem member)

/-- A line that an open block scalar of the source takes up keeps its distance from the first
line. -/
theorem mem_flushedLines_push {block : ShellBlock} (incremental : tracker.mode = .incremental)
    (isOpen : tracker.nesting.shell = some block) (explicit : block.explicit)
    (notBlank : token.role ≠ .blank) (hasContent : token.content ≠ [])
    (deeper : block.startIndent < token.indent) :
    .moved (tracker.shellPlacement.depth +
        (indentStep + (token.indent - ShellBlock.baseIndent (block.push token).body)))
      token.content ∈ (tracker.push token).flushedLines := by
  have accepts : block.accepts token := by
    rw [ShellBlock.accepts, if_pos explicit]
    exact decide_eq_true deeper
  have absorbs := extendShell?_of_accepts isOpen notBlank accepts
  have gathered : ShellBlock.scriptLine token ∈ (block.push token).body :=
    List.mem_append_right _ List.mem_cons_self
  have stillExplicit : (block.push token).explicit := explicit
  obtain ⟨below, rendered, isBelow⟩ :=
    ShellBlock.mem_render_of_explicit stillExplicit gathered hasContent
  rw [push_of_absorbed absorbs]
  refine List.mem_append_left _ ?_
  change _ ∈ blockLines tracker.mode (block.push token) tracker.shellPlacement
  rw [incremental]
  exact mem_blockLines rendered isBelow

/-! ## Values below a key -/

/-- A line of an open value is moved to its column below the key. -/
theorem exists_nestedLine {taken : Tracker} (takes : tracker.takeNested? token = some taken) :
    ∃ key text, tracker.nesting.openKey = some key ∧
      tracker.nestedLine? token =
        some (.moved (tracker.nestedColumn (keyAt key token) token) text) ∧
      taken = (tracker.emit (tracker.nestedColumn (keyAt key token) token) text).withNesting
        { tracker.nesting with
          openKey := some (keyAfter (keyAt key token) token
            (tracker.nestedColumn (keyAt key token) token)) } := by
  cases isOpen : tracker.nesting.openKey with
  | none =>
      rw [takeNested?_of_closed isOpen] at takes
      cases takes
  | some key =>
      cases nests : tracker.nestsUnder (keyAt key token) token with
      | false =>
          rw [takeNested?_of_apart isOpen nests] at takes
          cases takes
      | true =>
          rw [takeNested?_of_nests isOpen nests] at takes
          cases takes
          refine ⟨key, _, rfl, ?_, rfl⟩
          unfold nestedLine?
          rw [isOpen, Option.map_some]
          dsimp only
          rw [if_pos nests]

theorem nestedLine?_of_apart (apart : tracker.takeNested? token = none) :
    tracker.nestedLine? token = none := by
  unfold takeNested? at apart
  unfold nestedLine?
  split
  · rfl
  · next key isKey =>
      rw [isKey] at apart
      dsimp only at apart
      split
      · next nests =>
          rw [if_pos nests] at apart
          cases apart
      · rfl

theorem innerLiteral_keyAt {key : OpenKey} {inner : InnerLiteral}
    (isInner : (keyAt key token).innerLiteral = some inner) : key.innerLiteral = some inner :=
  Option.eq_some_of_filter_eq_some isInner

/-- The column of a line in an open value of the canonical mode. -/
theorem Aligned.onLevel_nestedColumn (aligned : tracker.Aligned)
    (canonical : tracker.mode = .canonical) {key : OpenKey} (isOpen : tracker.nesting.openKey = some key) :
    OnLevel 5 (tracker.nestedColumn (keyAt key token) token) ∧
      ((keyAt key token).innerLiteral = none →
        OnLevel 3 (tracker.nestedColumn (keyAt key token) token)) := by
  have belowKey := (aligned.openKey key isOpen).deeper
  unfold nestedColumn
  rw [canonical]
  cases isInner : (keyAt key token).innerLiteral with
  | none => exact ⟨belowKey.add 2, fun _ => belowKey⟩
  | some inner =>
      have innerKey := aligned.innerKey canonical key inner isOpen (innerLiteral_keyAt isInner)
      exact ⟨innerKey.deeper, nofun⟩

/-- A key among the nested lines stands at the line's column, or behind its list marker. -/
theorem innerLiteral_keyAfter {key : OpenKey} {column : Nat} {inner : InnerLiteral}
    (isInner : (keyAfter key token column).innerLiteral = some inner) :
    key.innerLiteral = some inner ∨
      key.innerLiteral = none ∧ (inner.depth = column ∨ inner.depth = column + indentStep) := by
  unfold keyAfter at isInner
  split at isInner
  · next opens =>
      cases isInner
      refine .inr ⟨?_, ?_⟩
      · simp only [Bool.and_eq_true, Option.isNone_iff_eq_none] at opens
        exact opens.1.1.2
      · dsimp only
        split
        · exact .inr rfl
        · exact .inl rfl
  · exact .inl isInner

theorem depth_keyAfter (key : OpenKey) (token : LineToken) (column : Nat) :
    (keyAfter key token column).depth = key.depth := by
  unfold keyAfter
  split <;> rfl

theorem Aligned.takeNested? {taken : Tracker} (aligned : tracker.Aligned)
    (takes : tracker.takeNested? token = some taken) : taken.Aligned := by
  obtain ⟨key, text, isOpen, -, rfl⟩ := exists_nestedLine takes
  refine
    { aligned with
      openKey := fun after isAfter => ?_
      innerKey := fun canonical after inner isAfter isInner => ?_ }
  · cases isAfter
    rw [depth_keyAfter]
    exact aligned.openKey key isOpen
  · cases isAfter
    rcases innerLiteral_keyAfter isInner with kept | ⟨isNew, atColumn⟩
    · exact aligned.innerKey canonical key inner isOpen (innerLiteral_keyAt kept)
    · have onLevel := (aligned.onLevel_nestedColumn canonical isOpen).2 isNew
      rcases atColumn with same | behind
      · rw [same]
        exact onLevel.add 1
      · rw [behind]
        exact onLevel.deeper

/-! ## Lines outside a shell block -/

theorem outsideLines_of_blank (isBlank : token.role = .blank) :
    tracker.outsideLines token = tracker.blankLines := by
  rw [outsideLines, if_pos isBlank]

theorem outsideLines_of_nested {line : WrittenLine} (notBlank : token.role ≠ .blank)
    (nested : tracker.nestedLine? token = some line) : tracker.outsideLines token = [line] := by
  rw [outsideLines, if_neg notBlank, nested]

theorem outsideLines_of_apart (notBlank : token.role ≠ .blank)
    (apart : tracker.takeNested? token = none) :
    tracker.outsideLines token = (tracker.leave token).placedLines token := by
  rw [outsideLines, if_neg notBlank, nestedLine?_of_apart apart]
  rfl

/-- A blank line is written as it is, and in the incremental mode only. -/
theorem pushBlank_eq (tracker : Tracker) :
    tracker.pushBlank = tracker ∨
      tracker.mode = .incremental ∧ tracker.pushBlank = tracker.emitLine [] := by
  unfold pushBlank
  dsimp only
  cases tracker.mode with
  | canonical => exact .inl rfl
  | incremental =>
      rw [if_neg (by decide)]
      split
      · exact .inr ⟨rfl, rfl⟩
      · exact .inl rfl

theorem blankLines_text (tracker : Tracker) :
    tracker.pushBlank.out = tracker.out ++ tracker.blankLines.map WrittenLine.text := by
  unfold blankLines
  rcases tracker.pushBlank_eq with same | ⟨-, more⟩
  · rw [same]
    simp
  · rw [more, emitLine]
    simp [WrittenLine.text]

theorem stands_blankLines (tracker : Tracker) (deepest : Nat) :
    ∀ line ∈ tracker.blankLines, line.Stands tracker.mode deepest := by
  intro line member
  obtain ⟨text, inOut, rfl⟩ := List.mem_map.mp member
  rcases tracker.pushBlank_eq with same | ⟨incremental, -⟩
  · rw [same, List.drop_length] at inOut
    cases inOut
  · exact incremental

/-- The lines of a line outside a shell block are written behind all others. -/
theorem outsideLines_text (tracker : Tracker) (token : LineToken) :
    (tracker.pushOutsideShell token).out =
      tracker.out ++ (tracker.outsideLines token).map WrittenLine.text := by
  by_cases isBlank : token.role = .blank
  · rw [pushOutsideShell, if_pos isBlank, outsideLines_of_blank isBlank]
    exact tracker.blankLines_text
  · cases takes : tracker.takeNested? token with
    | some taken =>
        obtain ⟨key, text, -, nested, rfl⟩ := exists_nestedLine takes
        rw [pushOutsideShell_of_taken isBlank takes, outsideLines_of_nested isBlank nested]
        rfl
    | none =>
        rw [pushOutsideShell_of_apart isBlank takes, outsideLines_of_apart isBlank takes]
        exact ((tracker.places_leave token).after_silent (places_place _ token)).out

theorem Aligned.pushOutsideShell (aligned : tracker.Aligned) :
    (tracker.pushOutsideShell token).Aligned := by
  by_cases isBlank : token.role = .blank
  · rw [Tracker.pushOutsideShell, if_pos isBlank]
    rcases tracker.pushBlank_eq with same | ⟨-, more⟩
    · rwa [same]
    · rw [more]
      exact { aligned with }
  · cases takes : tracker.takeNested? token with
    | some taken =>
        rw [pushOutsideShell_of_taken isBlank takes]
        exact aligned.takeNested? takes
    | none =>
        rw [pushOutsideShell_of_apart isBlank takes]
        exact ((tracker.places_leave token).after_silent (places_place _ token)).aligned aligned

/-- In the canonical mode every line outside a shell block stands on one of the first levels. -/
theorem stands_outsideLines (aligned : tracker.Aligned) (canonical : tracker.mode = .canonical) :
    ∀ line ∈ tracker.outsideLines token, line.Stands .canonical 5 := by
  rw [← canonical]
  intro line member
  by_cases isBlank : token.role = .blank
  · rw [outsideLines_of_blank isBlank] at member
    exact tracker.stands_blankLines 5 line member
  · cases takes : tracker.takeNested? token with
    | some taken =>
        obtain ⟨key, text, isOpen, nested, -⟩ := exists_nestedLine takes
        rw [outsideLines_of_nested isBlank nested] at member
        cases List.mem_singleton.mp member
        exact (aligned.onLevel_nestedColumn canonical isOpen).1
    | none =>
        rw [outsideLines_of_apart isBlank takes] at member
        have placed := (tracker.places_leave token).after_silent (places_place _ token)
        exact (placed.stands aligned line member).add 2

/-! ## One step -/

/-- The written lines after the open shell block has been written in its place. -/
def flushInto (tracker : Tracker) (lines : List WrittenLine) : List WrittenLine :=
  match tracker.nesting.shell with
  | some block =>
    let placement := tracker.shellPlacement
    lines.take placement.start ++ blockLines tracker.mode block placement ++
      lines.drop (placement.start + placement.length) ++ tracker.blankBehind block
  | none => lines

/-- The written lines after one more line of the source. -/
def pushInto (tracker : Tracker) (lines : List WrittenLine) (token : LineToken) :
    List WrittenLine :=
  match tracker.extendShell? token with
  | some _ => lines
  | none => tracker.flushInto lines ++ tracker.flushShell.outsideLines token

theorem out_closeShell (tracker : Tracker) (block : ShellBlock) :
    (tracker.closeShell block).out = tracker.out.take tracker.shellPlacement.start ++
      shellLines tracker.mode block tracker.shellPlacement ++
      tracker.out.drop (tracker.shellPlacement.start + tracker.shellPlacement.length) ++
      (tracker.blankBehind block).map WrittenLine.text := by
  unfold closeShell blankBehind
  dsimp only
  split
  · rfl
  · exact (List.append_nil _).symm

theorem flushInto_text {lines : List WrittenLine}
    (follow : tracker.out = lines.map WrittenLine.text) :
    tracker.flushShell.out = (tracker.flushInto lines).map WrittenLine.text := by
  unfold flushInto
  cases shell : tracker.nesting.shell with
  | none => rwa [flushShell_of_none shell]
  | some block =>
      rw [flushShell_of_some shell, out_closeShell, follow]
      simp only [List.map_append, List.map_take, List.map_drop, blockLines_text]

/-- **One step.** What has been written is what the lines say, step by step. -/
theorem pushInto_text {lines : List WrittenLine}
    (follow : tracker.out = lines.map WrittenLine.text) (token : LineToken) :
    (tracker.push token).out = (tracker.pushInto lines token).map WrittenLine.text := by
  unfold pushInto
  cases absorbs : tracker.extendShell? token with
  | some extended =>
      obtain ⟨block, absorbed, -, -, rfl⟩ := extendShell?_eq_some absorbs
      rw [push_of_absorbed absorbs]
      exact follow
  | none =>
      rw [push_of_outside absorbs, outsideLines_text, flushInto_text follow, List.map_append]

theorem mem_flushInto {lines : List WrittenLine} {line : WrittenLine}
    (member : line ∈ tracker.flushInto lines) : line ∈ lines ∨ line ∈ tracker.flushedLines := by
  unfold flushInto at member
  unfold flushedLines
  cases shell : tracker.nesting.shell with
  | none =>
      rw [shell] at member
      exact .inl member
  | some block =>
      rw [shell] at member
      simp only [List.mem_append] at member ⊢
      rcases member with ((above | written) | below) | blank
      · exact .inl (List.mem_of_mem_take above)
      · exact .inr (.inl written)
      · exact .inl (List.mem_of_mem_drop below)
      · exact .inr (.inr blank)

/-- All lines after a step are lines before it or lines of the step. -/
theorem mem_pushInto {lines : List WrittenLine} {line : WrittenLine}
    (member : line ∈ tracker.pushInto lines token) :
    line ∈ lines ∨ line ∈ tracker.pushedLines token := by
  unfold pushInto at member
  unfold pushedLines
  cases absorbs : tracker.extendShell? token with
  | some extended =>
      rw [absorbs] at member
      exact .inl member
  | none =>
      rw [absorbs] at member
      rcases List.mem_append.mp member with flushed | outside
      · exact (mem_flushInto flushed).imp_right (List.mem_append_left _)
      · exact .inr (List.mem_append_right _ outside)

/-- Every line of the source keeps the remembered columns aligned. -/
theorem Aligned.push (aligned : tracker.Aligned) (token : LineToken) :
    (tracker.push token).Aligned := by
  cases absorbs : tracker.extendShell? token with
  | some extended =>
      obtain ⟨block, absorbed, -, -, rfl⟩ := extendShell?_eq_some absorbs
      rw [push_of_absorbed absorbs]
      exact { aligned with }
  | none =>
      rw [push_of_outside absorbs]
      exact aligned.flushShell.pushOutsideShell

/-- **The levels of the canonical mode.** Every line of a step stands at most five steps from the
left edge. -/
theorem stands_pushedLines (aligned : tracker.Aligned) (canonical : tracker.mode = .canonical) :
    ∀ line ∈ tracker.pushedLines token, line.Stands .canonical 5 := by
  intro line member
  unfold pushedLines at member
  split at member
  · cases member
  · rcases List.mem_append.mp member with flushed | outside
    · exact (stands_flushedLines aligned canonical line flushed).add 2
    · have stillCanonical := (tracker.flushShell_state).2.1.trans canonical
      exact stands_outsideLines aligned.flushShell stillCanonical line outside

/-! ## Columns of the incremental mode -/

/-- No line of the open or of the remembered script stood right of the given column. -/
structure Narrow (widest : Nat) (tracker : Tracker) : Prop where
  shell : ∀ block, tracker.nesting.shell = some block → block.Narrow widest
  remembered : ∀ block placement, tracker.openAction = some (.shell block placement) →
    block.Narrow widest

theorem narrow_start (widest : Nat) (mode : RebuildMode) (kind : FileKind) :
    Narrow widest (start mode kind) where
  shell := nofun
  remembered := nofun

variable {widest : Nat}

theorem Narrow.of_adds {after : Tracker} {lines : List Text} (narrow : tracker.Narrow widest)
    (adds : Adds tracker after lines) : after.Narrow widest where
  shell := fun block isOpen => narrow.shell block (adds.shell ▸ isOpen)
  remembered := fun block placement isRemembered =>
    narrow.remembered block placement (adds.remembers block placement isRemembered)

theorem Narrow.flushShell (narrow : tracker.Narrow widest) : tracker.flushShell.Narrow widest := by
  cases shell : tracker.nesting.shell with
  | none => rwa [flushShell_of_none shell]
  | some block =>
      have closes := tracker.closes_closeShell block
      rw [flushShell_of_some shell]
      refine ⟨fun other isOpen => ?_, fun closed placement isRemembered => ?_⟩
      · rw [closes.shell] at isOpen
        cases isOpen
      · obtain ⟨rfl, -⟩ := closes.remembers closed placement isRemembered
        exact narrow.shell closed shell

/-- Lines that stand no further right than the widest column do not make a script wider. -/
theorem Narrow.pushOutsideShell (narrow : tracker.Narrow widest) (classified : token.Classified)
    (indent : token.indent ≤ widest) : (tracker.pushOutsideShell token).Narrow widest := by
  by_cases isBlank : token.role = .blank
  · rw [Tracker.pushOutsideShell, if_pos isBlank]
    rcases tracker.adds_pushBlank with adds | adds
    · exact narrow.of_adds adds
    · exact narrow.of_adds adds
  · have hasContent := mt classified.role_eq_blank_iff.mpr isBlank
    cases effect_pushOutsideShell tracker classified hasContent with
    | wrote supplied line areSupplied written adds => exact narrow.of_adds adds
    | dropped canonical excused adds => exact narrow.of_adds adds
    | opened supplied ready block areSupplied adds opens isOpen =>
        rw [isOpen]
        refine ⟨fun opened isOpened => ?_, (narrow.of_adds adds).remembered⟩
        cases isOpened
        cases opens with
        | key isKey => exact ShellBlock.narrow_ofModule widest token
        | fragment isFragment => exact ShellBlock.narrow_ofFragment indent
    | rejoined ready block placement adds isFragment remembered isOpen =>
        rw [isOpen]
        have isNarrow := (narrow.of_adds adds).remembered block placement remembered
        refine ⟨fun opened isOpened => ?_, fun other place isRemembered => ?_⟩
        · cases isOpened
          exact ShellBlock.Narrow.push isNarrow indent
        · simp only [openAction] at isRemembered
          split at isRemembered
          · cases isRemembered
          · cases isRemembered

theorem Narrow.push (narrow : tracker.Narrow widest) (classified : token.Classified)
    (indent : token.indent ≤ widest) : (tracker.push token).Narrow widest := by
  cases absorbs : tracker.extendShell? token with
  | some extended =>
      obtain ⟨block, absorbed, isOpen, isAbsorbed, rfl⟩ := extendShell?_eq_some absorbs
      rw [push_of_absorbed absorbs]
      refine ⟨fun extended isExtended => ?_, narrow.remembered⟩
      cases isExtended
      rcases isAbsorbed with ⟨-, rfl⟩ | ⟨-, -, rfl⟩
      · exact narrow.shell block isOpen
      · exact (narrow.shell block isOpen).push indent
  | none =>
      rw [push_of_outside absorbs]
      exact narrow.flushShell.pushOutsideShell classified indent

/-- The lines of a block stand at most three steps further right than in the source. -/
theorem column_flushedLines_le (aligned : tracker.Aligned) (narrow : tracker.Narrow widest) :
    ∀ line ∈ tracker.flushedLines, ∀ column, line.column? = some column →
      column ≤ widest + 3 * indentStep := by
  intro line member column isColumn
  unfold flushedLines blankBehind at member
  split at member
  · next block shell =>
      rcases List.mem_append.mp member with written | blank
      · have depth := aligned.shellPlacement.1
        rcases moved_of_mem_blockLines written with ⟨text, rfl⟩ | ⟨entry, rendered, rfl⟩
        · cases isColumn
          exact Nat.le_trans (by decide) (Nat.le_add_left _ widest)
        · cases isColumn
          rcases ShellBlock.offset_of_mem_render rendered with
            isKey | isBody | ⟨-, line, inBody, offset⟩
          · omega
          · omega
          · have isNarrow := narrow.shell block shell line inBody
            omega
      · split at blank
        · cases List.mem_singleton.mp blank
          cases isColumn
        · cases blank
  · cases member

/-- **The columns of the incremental mode.** If the source stands nowhere right of the widest column,
no line of a step is moved more than three steps further right. -/
theorem column_pushedLines_le (aligned : tracker.Aligned) (narrow : tracker.Narrow widest)
    (incremental : tracker.mode = .incremental) (indent : token.indent ≤ widest) :
    ∀ line ∈ tracker.pushedLines token, ∀ column, line.column? = some column →
      column ≤ widest + 3 * indentStep := by
  intro line member column isColumn
  unfold pushedLines at member
  split at member
  · cases member
  · rcases List.mem_append.mp member with flushed | outside
    · exact column_flushedLines_le aligned narrow line flushed column isColumn
    · have mode := (tracker.flushShell_state).2.1.trans incremental
      have flushed := aligned.flushShell
      generalize tracker.flushShell = closed at mode flushed outside
      by_cases isBlank : token.role = .blank
      · rw [outsideLines_of_blank isBlank] at outside
        exact Nat.le_trans ((closed.stands_blankLines 0 line outside).column_le isColumn)
          (Nat.zero_le _)
      · cases takes : closed.takeNested? token with
        | some taken =>
            obtain ⟨key, text, isOpen, nested, -⟩ := exists_nestedLine takes
            rw [outsideLines_of_nested isBlank nested] at outside
            cases List.mem_singleton.mp outside
            cases isColumn
            have depth := (flushed.openKey key isOpen).1
            unfold nestedColumn
            rw [mode]
            change (keyAt key token).depth ≤ _ at depth
            dsimp only
            omega
        | none =>
            rw [outsideLines_of_apart isBlank takes] at outside
            have placed := (closed.places_leave token).after_silent (places_place _ token)
            have atLevel := (placed.stands flushed line outside).column_le isColumn
            omega

end Tracker

end PlaybookRepair
