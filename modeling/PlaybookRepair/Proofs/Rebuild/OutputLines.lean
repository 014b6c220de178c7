import Mathlib.Data.List.Chain
import Mathlib.Data.List.DropRight
import PlaybookRepair.Proofs.Rebuild.Containment
import PlaybookRepair.Proofs.Rebuild.Entry

/-!
# Written lines inside and outside of block scalars

A line that the tracker has written stands in the body of a block scalar if it is a line of a shell
block below the block's header, or if it was written as part of the value of an open key that is a
block scalar. `OutputLine` keeps this beside the text of the line, and `Tracker.flushLines` and
`Tracker.pushLines` follow what writing the open shell block and pushing a line of the source do to
the written lines. `Marks` says that the lines are those of the tracker and that wherever a shell
block may be written over earlier lines, these are the lines of a block.

Several empty lines in a row outside of block scalars (lines that are not `Collapsed`) can come
about in one way only (`collapsed_flushLines`, `collapsed_pushOutsideShell`): a shell block that was
opened again ends with blank lines and what has been written ends with one (`Tracker.DoublesBlank`).
-/

namespace PlaybookRepair

/-- A written line, with whether it stands in the body of a block scalar. -/
structure OutputLine where
  text : Text
  inScalar : Bool
deriving Repr, DecidableEq

namespace OutputLine

/-- An empty line outside of block scalars. -/
def blank : OutputLine := ⟨[], false⟩

/-- The lines of a shell block: its header and the body below it. -/
def ofShell : List Text → List OutputLine
  | [] => []
  | header :: body => ⟨header, false⟩ :: body.map (⟨·, true⟩)

/-- No two lines in a row are empty and outside of block scalars. -/
def Collapsed (lines : List OutputLine) : Prop :=
  lines.IsChain fun first second => ¬ (first = blank ∧ second = blank)

instance : DecidablePred Collapsed := fun lines =>
  inferInstanceAs (Decidable (lines.IsChain fun first second =>
    ¬ (first = blank ∧ second = blank)))

/-- The lines without the empty ones at their end. -/
def dropEmptyEnd (lines : List OutputLine) : List OutputLine :=
  lines.rdropWhile (·.text.isEmpty)

section

variable {above block below lines more : List OutputLine}

theorem map_ofShell (texts : List Text) : (ofShell texts).map (·.text) = texts := by
  cases texts with
  | nil => rfl
  | cons header body => simp [ofShell, Function.comp_def]

theorem map_dropEmptyEnd (lines : List OutputLine) :
    (dropEmptyEnd lines).map (·.text) = Tracker.dropTrailingEmpty (lines.map (·.text)) := by
  rw [dropEmptyEnd, List.rdropWhile, Tracker.dropTrailingEmpty, ← List.map_reverse,
    List.dropWhile_map, List.map_reverse]
  rfl

/-! ## Blank lines in a row -/

theorem collapsed_append : Collapsed (lines ++ more) ↔ Collapsed lines ∧ Collapsed more ∧
    ¬ (lines.getLast? = some blank ∧ more.head? = some blank) := by
  rw [Collapsed, List.isChain_append]
  refine and_congr_right' (and_congr_right' ⟨?_, ?_⟩)
  · rintro apart ⟨last, head⟩
    exact apart blank last blank head ⟨rfl, rfl⟩
  · rintro apart first last second head ⟨rfl, rfl⟩
    exact apart ⟨last, head⟩

theorem collapsed_of_noBlank (noBlank : blank ∉ lines) : Collapsed lines := by
  induction lines with
  | nil => exact List.isChain_nil
  | cons line rest ih =>
      refine List.isChain_cons.mpr ⟨?_, ih (mt (List.mem_cons_of_mem line) noBlank)⟩
      rintro next _ ⟨rfl, _⟩
      exact noBlank List.mem_cons_self

/-- Below other lines, lines without a blank one change nothing. -/
theorem collapsed_append_of_noBlank (noBlank : blank ∉ more) :
    Collapsed (lines ++ more) ↔ Collapsed lines := by
  have head : more.head? ≠ some blank := mt List.mem_of_mem_head? noBlank
  simp [collapsed_append, collapsed_of_noBlank noBlank, head]

/-- The lines can be those of a shell block: there is no blank line among them, and the last one is
not empty. -/
structure IsBlock (lines : List OutputLine) : Prop where
  noBlank : blank ∉ lines
  ends : ∃ last, lines.getLast? = some last ∧ last.text ≠ []

/-- A shell block is a block. -/
theorem isBlock_ofShell {block : ShellBlock} {opener : LineToken}
    {gathered : List (Option LineToken)} (isGathered : block.Gathered opener gathered)
    (mode : RebuildMode) (placement : Placement) :
    IsBlock (ofShell (Tracker.shellLines mode block placement)) := by
  have notEmpty := ShellBlock.getLast?_shellLines isGathered mode placement
  obtain ⟨header, body, lines, hasHeader⟩ : ∃ header body,
      Tracker.shellLines mode block placement = header :: body ∧ header ≠ [] :=
    ⟨_, _, ShellBlock.shellLines_eq isGathered mode placement,
      block.headerLine_ne_nil placement⟩
  rw [lines] at notEmpty ⊢
  constructor
  · intro member
    rcases List.mem_cons.mp member with isHeader | inBody
    · exact hasHeader (congrArg OutputLine.text isHeader).symm
    · obtain ⟨text, _, isBlank⟩ := List.mem_map.mp inBody
      cases congrArg OutputLine.inScalar isBlank
  · cases last : (ofShell (header :: body)).getLast? with
    | none => cases List.getLast?_eq_none_iff.mp last
    | some line =>
        refine ⟨line, rfl, fun empty => notEmpty ?_⟩
        rw [← map_ofShell (header :: body), List.getLast?_map, last, ← empty]
        rfl

/-- Around a block only the lines above it and those below it matter. -/
theorem IsBlock.collapsed_around (isBlock : IsBlock block) :
    Collapsed (above ++ block ++ below) ↔ Collapsed above ∧ Collapsed below := by
  have last : (above ++ block).getLast? ≠ some blank := by
    obtain ⟨line, ends, hasText⟩ := isBlock.ends
    rw [List.getLast?_append, ends]
    rintro ⟨⟩
    exact hasText rfl
  rw [collapsed_append, collapsed_append_of_noBlank isBlock.noBlank]
  exact and_congr_right' (and_iff_left fun both => last both.1)

/-- Lines end with a blank one if those below a block in them do. -/
theorem IsBlock.getLast?_around (isBlock : IsBlock block) :
    (above ++ block ++ below).getLast? = some blank ↔ below.getLast? = some blank := by
  obtain ⟨line, ends, hasText⟩ := isBlock.ends
  rw [List.getLast?_append, List.getLast?_append, ends]
  cases below.getLast? with
  | none =>
      refine ⟨?_, nofun⟩
      rintro ⟨⟩
      exact (hasText rfl).elim
  | some last => exact Iff.rfl

/-! ## Empty lines at the end -/

theorem dropEmptyEnd_of_ends (ends : ∃ last, lines.getLast? = some last ∧ last.text ≠ []) :
    dropEmptyEnd lines = lines := by
  obtain ⟨last, isLast, hasText⟩ := ends
  obtain ⟨start, rfl⟩ := List.getLast?_eq_some_iff.mp isLast
  exact List.rdropWhile_concat_neg _ _ _ (by simpa using hasText)

theorem dropEmptyEnd_append (ends : ∃ last, lines.getLast? = some last ∧ last.text ≠ []) :
    dropEmptyEnd (lines ++ more) = lines ++ dropEmptyEnd more := by
  induction more using List.reverseRecOn with
  | nil =>
      rw [List.append_nil, dropEmptyEnd_of_ends ends]
      exact (List.append_nil lines).symm
  | append_singleton more line ih =>
      rw [← List.append_assoc, dropEmptyEnd, List.rdropWhile_concat, dropEmptyEnd,
        List.rdropWhile_concat]
      split
      · exact ih
      · exact List.append_assoc _ _ _

theorem dropEmptyEnd_append_of_empty (areEmpty : ∀ line ∈ more, line.text = []) :
    dropEmptyEnd (lines ++ more) = dropEmptyEnd lines := by
  induction more using List.reverseRecOn with
  | nil => rw [List.append_nil]
  | append_singleton more line ih =>
      obtain ⟨rest, last⟩ := List.forall_mem_append.mp areEmpty
      rw [← List.append_assoc, dropEmptyEnd, List.rdropWhile_concat_pos]
      · exact ih rest
      · rw [List.forall_mem_singleton.mp last]
        rfl

/-- Without the empty lines at the end, too, only the lines above and below a block matter. -/
theorem IsBlock.collapsed_dropEmptyEnd (isBlock : IsBlock block) :
    Collapsed (dropEmptyEnd (above ++ block ++ below)) ↔
      Collapsed above ∧ Collapsed (dropEmptyEnd below) := by
  obtain ⟨line, ends, hasText⟩ := isBlock.ends
  have last : (above ++ block).getLast? = some line := by
    rw [List.getLast?_append, ends]
    rfl
  rw [dropEmptyEnd_append ⟨line, last, hasText⟩]
  exact isBlock.collapsed_around

end

end OutputLine

open OutputLine (Collapsed IsBlock dropEmptyEnd)

/-- The lines stand at the place, with the others above and below them. -/
structure Placement.Frames (placement : Placement) (above old below lines : List OutputLine) :
    Prop where
  lines : lines = above ++ old ++ below
  start : placement.start = above.length
  length : placement.length = old.length

theorem Placement.Frames.append {placement : Placement} {above old below lines : List OutputLine}
    (frames : placement.Frames above old below lines) (more : List OutputLine) :
    placement.Frames above old (below ++ more) (lines ++ more) where
  lines := by rw [frames.lines, List.append_assoc _ below]
  start := frames.start
  length := frames.length

namespace Tracker

/-! ## Following the written lines -/

/-- The blank line that is written for those with which the open block ends. -/
def closingBlanks (tracker : Tracker) (block : ShellBlock) : List OutputLine :=
  if tracker.mode = .incremental && block.pendingBlanks > 0 then [.blank] else []

/-- The written lines after the open shell block has been written too. -/
def flushLines (tracker : Tracker) (lines : List OutputLine) : List OutputLine :=
  match tracker.nesting.shell with
  | none => lines
  | some block =>
    let placement := tracker.shellPlacement
    lines.take placement.start ++ OutputLine.ofShell (shellLines tracker.mode block placement) ++
      lines.drop (placement.start + placement.length) ++ tracker.closingBlanks block

/-- Whether what is written for a line is part of the value of an open key that is a block scalar,
or that holds one among its nested lines. -/
def inScalarValue (tracker : Tracker) (token : LineToken) : Bool :=
  if token.role = .blank then
    tracker.nesting.openKey.any fun key => key.literal || key.innerLiteral.isSome
  else
    (tracker.nesting.openKey.map (keyAt · token)).any fun key =>
      (key.literal || key.innerLiteral.isSome) && tracker.nestsUnder key token

/-- What a line adds to the written lines outside of shell blocks. -/
def addedLines (before after : Tracker) (token : LineToken) : List OutputLine :=
  (after.out.drop before.out.length).map (⟨·, before.inScalarValue token⟩)

/-- The written lines after one more line of the source. -/
def pushLines (tracker : Tracker) (lines : List OutputLine) (token : LineToken) :
    List OutputLine :=
  match tracker.extendShell? token with
  | some _ => lines
  | none =>
    let flushed := tracker.flushShell
    tracker.flushLines lines ++ flushed.addedLines (flushed.pushOutsideShell token) token

/-- The lines of a finished document. -/
def finishedOutput (tracker : Tracker) (lines : List OutputLine) : List OutputLine :=
  let kept := dropEmptyEnd (tracker.flushLines lines)
  if tracker.mode = .incremental && !startsWithMarker (kept.map (·.text)) then
    ⟨"---".toList, false⟩ :: kept
  else kept

/-- Writing the open shell block adds a blank line below a blank line: the block had been written
before and is open again, so that its lines go to their earlier place; it ends with blank lines, and
so does what has been written. -/
def DoublesBlank (tracker : Tracker) (lines : List OutputLine) : Prop :=
  tracker.reopened.isSome ∧
    (∃ block, tracker.nesting.shell = some block ∧ 0 < block.pendingBlanks) ∧
    lines.getLast? = some .blank

/-- The lines are those that the tracker has written. A remembered shell block stands among them as
a block, and so do the earlier lines of an open one; a block that is open for the first time is to
be written below all lines. -/
structure Marks (tracker : Tracker) (lines : List OutputLine) : Prop where
  texts : lines.map (·.text) = tracker.out
  remembered : ∀ block placement, tracker.openAction = some (.shell block placement) →
    ∃ above old below, placement.Frames above old below lines ∧ IsBlock old
  isOpen : ∀ block, tracker.nesting.shell = some block →
    ∃ above old below, tracker.shellPlacement.Frames above old below lines ∧
      (tracker.reopened.isSome ∧ IsBlock old ∨ tracker.reopened = none ∧ old = [] ∧ below = [])

/-- The open shell block is written as a block. -/
def Renders (tracker : Tracker) : Prop :=
  ∀ block, tracker.nesting.shell = some block →
    ∀ placement, IsBlock (OutputLine.ofShell (shellLines tracker.mode block placement))

section

variable {tracker before after : Tracker} {lines above old below : List OutputLine}
  {token : LineToken} {block : ShellBlock}

/-! ## Writing the open block -/

theorem closeShell_out (tracker : Tracker) (block : ShellBlock) :
    (tracker.closeShell block).out = tracker.out.take tracker.shellPlacement.start ++
      shellLines tracker.mode block tracker.shellPlacement ++
      tracker.out.drop (tracker.shellPlacement.start + tracker.shellPlacement.length) ++
      (tracker.closingBlanks block).map (·.text) := by
  unfold closeShell closingBlanks
  dsimp only
  split
  · rfl
  · exact (List.append_nil _).symm

theorem flushLines_of_none (shell : tracker.nesting.shell = none) :
    tracker.flushLines lines = lines := by
  rw [flushLines, shell]

/-- The lines of the open block replace those at its place. -/
theorem flushLines_of_some (shell : tracker.nesting.shell = some block)
    (frames : tracker.shellPlacement.Frames above old below lines) :
    tracker.flushLines lines = above ++
      OutputLine.ofShell (shellLines tracker.mode block tracker.shellPlacement) ++ below ++
      tracker.closingBlanks block := by
  rw [flushLines, shell]
  dsimp only
  rw [frames.start, frames.length, frames.lines, ← List.length_append, List.drop_left,
    List.append_assoc above, List.take_left]

/-- What follows the tracker still does when the open block has been written. -/
theorem Marks.flushShell (marks : Marks tracker lines) (renders : tracker.Renders) :
    Marks tracker.flushShell (tracker.flushLines lines) := by
  cases shell : tracker.nesting.shell with
  | none => rwa [flushShell_of_none shell, flushLines_of_none shell]
  | some block =>
      have closes := tracker.closes_closeShell block
      obtain ⟨above, old, below, frames, _⟩ := marks.isOpen block shell
      rw [flushShell_of_some shell]
      refine ⟨?_, ?_, ?_⟩
      · rw [flushLines, shell, closeShell_out, ← marks.texts]
        simp only [List.map_append, List.map_take, List.map_drop, OutputLine.map_ofShell]
      · intro closed placement remembered
        obtain ⟨rfl, rfl⟩ := closes.remembers closed placement remembered
        refine ⟨above, _, below ++ tracker.closingBlanks closed, ⟨?_, frames.start, ?_⟩,
          renders closed shell tracker.shellPlacement⟩
        · rw [flushLines_of_some shell frames, List.append_assoc _ below]
        · rw [← List.length_map (f := OutputLine.text), OutputLine.map_ofShell]
      · intro other isOpen
        rw [closes.shell] at isOpen
        cases isOpen

/-- **Writing the open block.** Blank lines come to stand in a row just if a block that is open
again ends with blank lines below a blank line. -/
theorem collapsed_flushLines (marks : Marks tracker lines) (renders : tracker.Renders)
    (isMode : tracker.mode = .incremental) :
    Collapsed (tracker.flushLines lines) ↔ Collapsed lines ∧ ¬ tracker.DoublesBlank lines := by
  cases shell : tracker.nesting.shell with
  | none =>
      rw [flushLines_of_none shell]
      refine (and_iff_left ?_).symm
      rintro ⟨_, ⟨block, isOpen, _⟩, _⟩
      rw [shell] at isOpen
      cases isOpen
  | some block =>
      obtain ⟨above, old, below, frames, place⟩ := marks.isOpen block shell
      have written := renders block shell tracker.shellPlacement
      have blanks : Collapsed (tracker.closingBlanks block) ∧
          ((tracker.closingBlanks block).head? = some .blank ↔ 0 < block.pendingBlanks) := by
        unfold closingBlanks
        by_cases pending : block.pendingBlanks > 0
        · simp [isMode, pending, Collapsed]
        · simp [pending, Collapsed]
      rw [flushLines_of_some shell frames, OutputLine.collapsed_append, written.collapsed_around,
        written.getLast?_around, blanks.2, and_iff_right blanks.1, DoublesBlank, frames.lines]
      rcases place with ⟨again, earlier⟩ | ⟨fresh, rfl, rfl⟩
      · rw [earlier.collapsed_around, earlier.getLast?_around]
        simp [again, shell, and_comm]
      · simp [fresh, Collapsed]

/-- Of the lines that are left of a document when the open block has been written, only those above
and below it matter. -/
theorem collapsed_dropEmptyEnd_flushLines (shell : tracker.nesting.shell = some block)
    (frames : tracker.shellPlacement.Frames above old below lines) (renders : tracker.Renders) :
    Collapsed (dropEmptyEnd (tracker.flushLines lines)) ↔
      Collapsed above ∧ Collapsed (dropEmptyEnd below) := by
  have areEmpty : ∀ line ∈ tracker.closingBlanks block, line.text = [] := by
    unfold closingBlanks
    split
    · exact List.forall_mem_singleton.mpr rfl
    · exact List.forall_mem_nil _
  rw [flushLines_of_some shell frames, OutputLine.dropEmptyEnd_append_of_empty areEmpty]
  exact (renders block shell tracker.shellPlacement).collapsed_dropEmptyEnd

/-! ## Pushing a line outside of a shell block -/

theorem addedLines_of_out {texts : List Text} (out : after.out = before.out ++ texts) :
    before.addedLines after token = texts.map (⟨·, before.inScalarValue token⟩) := by
  rw [addedLines, out, List.drop_left]

/-- Lines that are written below all others leave a block where it is. -/
theorem Marks.adds {texts : List Text} (marks : Marks before lines)
    (shell : before.nesting.shell = none) (adds : Adds before after texts) :
    Marks after (lines ++ before.addedLines after token) := by
  refine ⟨?_, ?_, ?_⟩
  · rw [addedLines_of_out adds.out, List.map_append, marks.texts, adds.out, List.map_map]
    exact congrArg (before.out ++ ·) (List.map_id texts)
  · intro block placement remembered
    obtain ⟨above, old, below, frames, isBlock⟩ :=
      marks.remembered block placement (adds.remembers block placement remembered)
    exact ⟨above, old, _, frames.append _, isBlock⟩
  · intro block isOpen
    rw [adds.shell, shell] at isOpen
    cases isOpen

/-- A block that opens is to be written below all lines. -/
theorem Marks.opens (marks : Marks before lines) (fresh : before.reopened = none)
    (block : ShellBlock) :
    Marks (before.withNesting { before.nesting with shell := some block }) lines := by
  refine ⟨marks.texts, marks.remembered, ?_⟩
  intro other _
  have place :
      (before.withNesting { before.nesting with shell := some block }).shellPlacement = _ :=
    shellPlacement_of_fresh fresh
  refine ⟨lines, [], [], ⟨by simp, ?_, ?_⟩, .inr ⟨fresh, rfl, rfl⟩⟩
  · rw [place, ← List.length_map (f := OutputLine.text), marks.texts]
    rfl
  · rw [place]
    rfl

/-- A block that is open again has its place where it is remembered. -/
theorem Marks.joins {placement : Placement} (marks : Marks before lines)
    (remembered : before.openAction = some (.shell block placement)) (nesting : Nesting) :
    Marks { before with nesting, taskAction := none, reopened := some placement } lines := by
  refine ⟨marks.texts, ?_, ?_⟩
  · intro other place action
    simp [openAction] at action
  · intro other _
    obtain ⟨above, old, below, frames, isBlock⟩ := marks.remembered block placement remembered
    exact ⟨above, old, below, frames, .inl ⟨rfl, isBlock⟩⟩

theorem addedLines_of_silent (silent : after.out = before.out) :
    before.addedLines after token = [] := by
  have out : after.out = before.out ++ [] := by rw [silent, List.append_nil]
  rw [addedLines_of_out out, List.map_nil]

/-- The lines that are supplied or written for a line with content are not empty. -/
theorem texts_ne_nil {supplied : List Text} {line : Text} (areSupplied : AreSupplied supplied)
    (written : token.WrittenAs line) (hasContent : token.content ≠ []) :
    ∀ text ∈ supplied ++ [line], text ≠ [] := by
  refine List.forall_mem_append.mpr ⟨?_, List.forall_mem_singleton.mpr ?_⟩
  · rcases areSupplied with rfl | rfl <;> decide
  · exact written.ne_nil hasContent

/-- Outside of a shell block the lines still follow the tracker after one more line. -/
theorem Marks.pushOutsideShell (marks : Marks tracker lines) (shell : tracker.nesting.shell = none)
    (fresh : tracker.reopened = none) (classified : token.Classified) :
    Marks (tracker.pushOutsideShell token)
      (lines ++ tracker.addedLines (tracker.pushOutsideShell token) token) := by
  by_cases isBlank : token.role = .blank
  · rw [Tracker.pushOutsideShell, if_pos isBlank]
    rcases tracker.adds_pushBlank with adds | adds <;> exact marks.adds shell adds
  · have hasContent := mt classified.role_eq_blank_iff.mpr isBlank
    have effect := effect_pushOutsideShell tracker classified hasContent
    generalize tracker.pushOutsideShell token = after at *
    cases effect with
    | wrote _ _ _ _ adds => exact marks.adds shell adds
    | dropped _ _ adds => exact marks.adds shell adds
    | opened supplied ready block _ adds _ isOpen =>
        subst isOpen
        exact (marks.adds shell adds).opens (adds.reopened.trans fresh) block
    | rejoined ready block placement adds _ remembered isOpen =>
        subst isOpen
        exact (marks.adds shell adds).joins remembered _

/-- A blank line is written below a line with text, or in the value of a key. -/
theorem collapsed_pushBlank (marks : Marks tracker lines) (isBlank : token.role = .blank) :
    Collapsed (lines ++ tracker.addedLines tracker.pushBlank token) ↔ Collapsed lines := by
  unfold pushBlank
  dsimp only
  split
  · rw [addedLines_of_silent rfl, List.append_nil]
  · split
    · next written =>
        have out : (tracker.emitLine []).out = tracker.out ++ [[]] := rfl
        rw [addedLines_of_out out, List.map_singleton, inScalarValue, if_pos isBlank]
        cases inScalar : tracker.nesting.openKey.any
            fun key => key.literal || key.innerLiteral.isSome with
        | true =>
            apply OutputLine.collapsed_append_of_noBlank
            rintro (_ | ⟨_, ⟨⟩⟩)
        | false =>
            rw [inScalar, Bool.false_or, ← marks.texts, List.getLast?_map] at written
            have last : lines.getLast? ≠ some .blank := by
              intro isLast
              rw [isLast] at written
              cases written
            rw [OutputLine.collapsed_append]
            exact and_iff_left ⟨List.isChain_singleton _, fun both => last both.1⟩
    · rw [addedLines_of_silent rfl, List.append_nil]

/-- **Pushing a line.** Outside of a shell block no line makes blank lines come to stand in a
row. -/
theorem collapsed_pushOutsideShell (marks : Marks tracker lines) (classified : token.Classified) :
    Collapsed (lines ++ tracker.addedLines (tracker.pushOutsideShell token) token) ↔
      Collapsed lines := by
  by_cases isBlank : token.role = .blank
  · rw [Tracker.pushOutsideShell, if_pos isBlank]
    exact collapsed_pushBlank marks isBlank
  · have hasContent := mt classified.role_eq_blank_iff.mpr isBlank
    have effect := effect_pushOutsideShell tracker classified hasContent
    apply OutputLine.collapsed_append_of_noBlank
    suffices texts : ∃ texts, (tracker.pushOutsideShell token).out = tracker.out ++ texts ∧
        ∀ text ∈ texts, text ≠ [] by
      obtain ⟨texts, out, haveText⟩ := texts
      rw [addedLines_of_out out]
      intro member
      obtain ⟨text, isText, same⟩ := List.mem_map.mp member
      exact haveText text isText (congrArg OutputLine.text same)
    cases effect with
    | wrote _ _ areSupplied written adds =>
        exact ⟨_, adds.out, texts_ne_nil areSupplied written hasContent⟩
    | dropped _ _ adds => exact ⟨[], adds.out, List.forall_mem_nil _⟩
    | opened supplied _ _ areSupplied adds _ isOpen =>
        rw [isOpen]
        refine ⟨supplied, adds.out, ?_⟩
        rcases areSupplied with rfl | rfl <;> decide
    | rejoined _ _ _ adds _ _ isOpen =>
        rw [isOpen]
        exact ⟨[], adds.out, List.forall_mem_nil _⟩

/-! ## What is left at the end -/

/-- The line is written below all others or opens a shell block there. -/
def WrittenBelow (after : Tracker) (token : LineToken) : Prop :=
  token.role ≠ .blank ∧ after.reopened = none

/-- A line that is written below all others keeps all of them in the document. Any other line leaves
those that are kept as they are, but for a block that it joins. -/
theorem collapsed_kept_pushOutsideShell (marks : Marks tracker lines)
    (shell : tracker.nesting.shell = none) (fresh : tracker.reopened = none)
    (isMode : tracker.mode = .incremental) (classified : token.Classified)
    (isAfter : tracker.pushOutsideShell token = after) (renders : after.Renders) :
    (after.WrittenBelow token →
      (Collapsed (dropEmptyEnd (after.flushLines (lines ++ tracker.addedLines after token))) ↔
        Collapsed (lines ++ tracker.addedLines after token))) ∧
    (¬ after.WrittenBelow token →
      (Collapsed (dropEmptyEnd (after.flushLines (lines ++ tracker.addedLines after token))) ↔
        Collapsed (dropEmptyEnd lines))) := by
  by_cases isBlank : token.role = .blank
  · refine ⟨fun below => (below.1 isBlank).elim, fun _ => ?_⟩
    rw [Tracker.pushOutsideShell, if_pos isBlank] at isAfter
    subst isAfter
    have added {texts : List Text} (adds : Adds tracker tracker.pushBlank texts)
        (areEmpty : ∀ text ∈ texts, text = []) :
        Collapsed (dropEmptyEnd (tracker.pushBlank.flushLines
            (lines ++ tracker.addedLines tracker.pushBlank token))) ↔
          Collapsed (dropEmptyEnd lines) := by
      rw [flushLines_of_none (adds.shell.trans shell), addedLines_of_out adds.out,
        OutputLine.dropEmptyEnd_append_of_empty (List.forall_mem_map.mpr areEmpty)]
    rcases tracker.adds_pushBlank with adds | adds
    · exact added adds (List.forall_mem_nil _)
    · exact added adds (List.forall_mem_singleton.mpr rfl)
  · have hasContent := mt classified.role_eq_blank_iff.mpr isBlank
    have effect := effect_pushOutsideShell tracker classified hasContent
    rw [isAfter] at effect
    cases effect with
    | wrote supplied line _ written adds =>
        refine ⟨fun _ => ?_, fun notBelow =>
          (notBelow ⟨isBlank, adds.reopened.trans fresh⟩).elim⟩
        rw [flushLines_of_none (adds.shell.trans shell), addedLines_of_out adds.out,
          List.map_append, ← List.append_assoc, OutputLine.dropEmptyEnd_of_ends]
        exact ⟨_, List.getLast?_concat, written.ne_nil hasContent⟩
    | dropped canonical =>
        rw [isMode] at canonical
        cases canonical
    | opened _ ready block _ adds _ isOpen =>
        have stillFresh : after.reopened = none := by
          rw [isOpen]
          exact adds.reopened.trans fresh
        have isShell : after.nesting.shell = some block := by
          rw [isOpen]
          rfl
        have marked : Marks after (lines ++ tracker.addedLines after token) :=
          isAfter ▸ marks.pushOutsideShell shell fresh classified
        refine ⟨fun _ => ?_, fun notBelow => (notBelow ⟨isBlank, stillFresh⟩).elim⟩
        obtain ⟨above, _, _, frames, ⟨again, _⟩ | ⟨_, rfl, rfl⟩⟩ := marked.isOpen block isShell
        · rw [stillFresh] at again
          cases again
        · have same := frames.lines
          rw [List.append_nil, List.append_nil] at same
          rw [collapsed_dropEmptyEnd_flushLines isShell frames renders, same]
          exact and_iff_left List.isChain_nil
    | rejoined ready block placement adds _ remembered isOpen =>
        have silent : after.out = tracker.out := by
          rw [isOpen]
          exact adds.out.trans (List.append_nil _)
        have place : after.shellPlacement = placement := by
          rw [isOpen]
          rfl
        have isShell : after.nesting.shell = some (block.reopen.push token) := by rw [isOpen]
        obtain ⟨above, old, below, frames, isBlock⟩ :=
          marks.remembered block placement (adds.remembers block placement remembered)
        rw [addedLines_of_silent silent, List.append_nil]
        refine ⟨fun below => ?_, fun _ => ?_⟩
        · rw [WrittenBelow, isOpen] at below
          cases below.2
        · rw [collapsed_dropEmptyEnd_flushLines isShell (place ▸ frames) renders,
            ← isBlock.collapsed_dropEmptyEnd, ← frames.lines]

/-! ## Absorbing a line -/

/-- A line that the open block absorbs changes nothing but the block. -/
theorem Marks.absorb {extended : Tracker} (marks : Marks tracker lines)
    (absorbs : tracker.extendShell? token = some extended) : Marks extended lines := by
  obtain ⟨block, absorbed, shell, _, rfl⟩ := extendShell?_eq_some absorbs
  exact ⟨marks.texts, marks.remembered, fun _ _ => marks.isOpen block shell⟩

/-- What the open block absorbs does not matter for the lines around it. -/
theorem collapsed_kept_absorb {extended : Tracker} (marks : Marks tracker lines)
    (absorbs : tracker.extendShell? token = some extended) (renders : tracker.Renders)
    (rendersAfter : extended.Renders) :
    Collapsed (dropEmptyEnd (extended.flushLines lines)) ↔
      Collapsed (dropEmptyEnd (tracker.flushLines lines)) := by
  obtain ⟨block, absorbed, shell, _, rfl⟩ := extendShell?_eq_some absorbs
  obtain ⟨above, old, below, frames, _⟩ := marks.isOpen block shell
  rw [collapsed_dropEmptyEnd_flushLines shell frames renders]
  exact collapsed_dropEmptyEnd_flushLines rfl frames rendersAfter

theorem pushLines_of_absorbed {extended : Tracker}
    (absorbs : tracker.extendShell? token = some extended) :
    tracker.pushLines lines token = lines := by
  rw [pushLines, absorbs]

theorem pushLines_of_outside (outside : tracker.extendShell? token = none) :
    tracker.pushLines lines token = tracker.flushLines lines ++
      tracker.flushShell.addedLines (tracker.flushShell.pushOutsideShell token) token := by
  rw [pushLines, outside]

end

end Tracker

end PlaybookRepair
