import PlaybookRepair.Proofs.Rebuild.Ledger

/-!
# Containment of shell blocks

While a shell block is open, nothing is written: a line is absorbed by the block, or the block is
written before the line is placed. What is absorbed is indented deeper than the start of the block
if it gives the document its structure or if the block has the header of a block scalar. The lines
in which a block is written are consecutive and hold its key, its inline command and the absorbed
lines, in this order and indented below the key (`ShellBlock.IsWritten`). The main statement is
`shell_block_contained`.
-/

namespace PlaybookRepair

open InlineValue (stripQuotes)

namespace ShellBlock

/-- The lines are those of a script: the key of the block at the given column, perhaps after a list
marker; below it, deeper than the key or empty, the inline command if the script goes on and then
the contents of the script's lines in their order; and no empty line at the end. -/
def IsWritten (block : ShellBlock) (script : List LineToken) (column : Nat) (span : List Text) :
    Prop :=
  ∃ margin marker seed body,
    span = (List.replicate margin ' ' ++ marker ++ block.headerText) :: (seed ++ body) ∧
    (marker = [] ∨ marker = "- ".toList) ∧ margin + marker.length = column ∧
    seed = (if script = [] then [] else
      block.inline.toList.map fun value => indented (column + 2) (stripQuotes value)) ∧
    (∀ line ∈ seed ++ body, line = [] ∨ List.replicate (column + 2) ' ' <+: line) ∧
    (body.filter (!·.isEmpty)).map Text.trim = script.map (·.content) ∧
    span.getLast? ≠ some []

theorem indented_eq_nil_or (column more : Nat) (text : Text) :
    indented (column + more) text = [] ∨
      List.replicate column ' ' <+: indented (column + more) text := by
  unfold indented
  split
  · next empty => exact .inl (List.isEmpty_iff.mp empty)
  · rw [List.replicate_add, List.append_assoc]
    exact .inr (List.prefix_append _ _)

section

variable {block : ShellBlock} {opener : LineToken} {lines : List (Option LineToken)}

/-- Trimmed and without the empty ones, the written lines of a script are the contents of the
gathered lines. -/
theorem trim_writtenEntries (contents : ∀ token ∈ lines.reduceOption, token.content ≠ [])
    (mode : RebuildMode) (placement : Placement) :
    ((lines.map (block.writtenEntry mode placement)).filter (!·.isEmpty)).map Text.trim =
      lines.reduceOption.map (·.content) := by
  induction lines with
  | nil => rfl
  | cons entry rest ih =>
      cases entry with
      | none => exact ih contents
      | some token =>
          have hasContent : token.content ≠ [] :=
            contents token (List.reduceOption_mem_iff.mpr List.mem_cons_self)
          have trimmed : Text.trim (block.writtenEntry mode placement (some token)) =
              token.content := by
            rw [writtenEntry_some hasContent]
            exact Text.trim_append_trim (fun c member => by
              rw [List.eq_of_mem_replicate member]
              rfl) _
          have notEmpty : (!(block.writtenEntry mode placement (some token)).isEmpty) = true := by
            rw [writtenEntry_some hasContent]
            simp [hasContent]
          rw [List.map_cons, List.filter_cons, if_pos notEmpty, List.map_cons, trimmed,
            List.reduceOption_cons_of_some, List.map_cons, ih fun other member =>
              contents other (by
                rw [List.reduceOption_cons_of_some]
                exact List.mem_cons_of_mem _ member)]

/-- The last line of a written block is not empty. -/
theorem getLast?_shellLines (gathered : block.Gathered opener lines) (mode : RebuildMode)
    (placement : Placement) : (Tracker.shellLines mode block placement).getLast? ≠ some [] := by
  rw [shellLines_eq gathered, List.getLast?_cons, List.getLast?_append, List.getLast?_map]
  cases last : lines.getLast? with
  | none =>
      have noLines := List.getLast?_eq_none_iff.mp last
      have noSeed : block.seedLines placement = [] := by
        rw [seedLines, gathered.body_isEmpty, noLines]
        rfl
      rw [noSeed]
      intro ends
      exact block.headerLine_ne_nil placement (Option.some.inj ends)
  | some entry =>
      cases entry with
      | none => exact (gathered.last last).elim
      | some token =>
          have hasContent : token.content ≠ [] := gathered.contents token
            (List.reduceOption_mem_iff.mpr (List.mem_of_getLast? last))
          intro ends
          have empty : block.writtenEntry mode placement (some token) = [] := Option.some.inj ends
          rw [writtenEntry_some hasContent] at empty
          exact hasContent (List.append_eq_nil_iff.mp empty).2

/-- A block is written as its script. -/
theorem isWritten_shellLines (gathered : block.Gathered opener lines) (mode : RebuildMode)
    {placement : Placement} (aligned : placement.dashed → placement.depth = taskKeyColumn) :
    block.IsWritten lines.reduceOption placement.depth
      (Tracker.shellLines mode block placement) := by
  obtain ⟨margin, marker, header, isMarker, column⟩ := block.headerLine_eq aligned
  have seed : block.seedLines placement = if lines.reduceOption = [] then [] else
      block.inline.toList.map fun value => indented (placement.depth + 2) (stripQuotes value) := by
    rw [seedLines, gathered.body_isEmpty]
    simp only [gathered.reduceOption_eq_nil_iff, List.isEmpty_iff]
    rfl
  refine ⟨margin, marker, block.seedLines placement, lines.map (block.writtenEntry mode placement),
    ?_, isMarker, column, seed, ?_, trim_writtenEntries gathered.contents mode placement, ?_⟩
  · rw [shellLines_eq gathered, header]
  · intro line member
    rcases List.mem_append.mp member with isSeed | isBody
    · unfold seedLines at isSeed
      split at isSeed
      · cases isSeed
      · obtain ⟨value, _, rfl⟩ := List.mem_map.mp isSeed
        exact indented_eq_nil_or (placement.depth + 2) 0 _
    · obtain ⟨entry, _, rfl⟩ := List.mem_map.mp isBody
      cases entry with
      | none => exact .inl rfl
      | some token => exact indented_eq_nil_or (placement.depth + 2) _ _
  · exact getLast?_shellLines gathered mode placement

end

end ShellBlock

/-- The column at which a block has opened is that of its opening line. -/
theorem ShellBlock.Gathered.startIndent {block : ShellBlock} {opener : LineToken}
    {lines : List (Option LineToken)} (gathered : block.Gathered opener lines) :
    block.startIndent = opener.indent := by
  rcases gathered.header with ⟨_, same⟩ | ⟨_, same, _⟩ <;> exact same.startIndent

/-- A line of the document's structure belongs to a block only if it is indented deeper. -/
theorem ShellBlock.startIndent_lt_of_isStructural {block : ShellBlock} {token : LineToken}
    (accepts : block.accepts token) (structural : token.role.isStructural) :
    block.startIndent < token.indent := by
  unfold ShellBlock.accepts at accepts
  split at accepts
  · exact of_decide_eq_true accepts
  · split at accepts
    · have noText := (Bool.and_eq_true_iff.mp accepts).2
      cases role : token.role <;> simp [role, Role.isStructural] at structural noText
    · exact of_decide_eq_true accepts

/-- A block scalar of the source takes only lines that are indented deeper than its header. -/
theorem ShellBlock.startIndent_lt_of_explicit {block : ShellBlock} {token : LineToken}
    (explicit : block.explicit) (accepts : block.accepts token) :
    block.startIndent < token.indent := by
  rw [ShellBlock.accepts, if_pos explicit] at accepts
  exact of_decide_eq_true accepts

namespace Rebuild

/-- **Containment of shell blocks.** At any point of a run at which a shell block is open, the next
line is absorbed by it and nothing is written, or the block is written first. A blank line apart,
what the block absorbs is indented deeper than the line on which the block has opened if it has a
structural role or the block is a block scalar of the source. Writing the block puts the lines of its
script in the place of earlier ones, if there are any, or else at the end, and changes no other
line. -/
theorem shell_block_contained (mode : RebuildMode) (kind : FileKind) (text : Text)
    {done later : List LineToken} (split : tokens mode kind text = done ++ later)
    {block : ShellBlock} (isOpen : (trackerAfter mode kind done).nesting.shell = some block) :
    let tracker := trackerAfter mode kind done
    let closed := tracker.flushShell
    (∀ token, later.head? = some token →
      (∃ extended, tracker.extendShell? token = some extended ∧ tracker.push token = extended ∧
        extended.out = tracker.out ∧ extended.ambiguities = tracker.ambiguities ∧
        extended.nesting.shell.isSome) ∨
      tracker.extendShell? token = none ∧ tracker.push token = closed.pushOutsideShell token ∧
        closed.nesting.shell = none ∧ closed.out <+: (tracker.push token).out) ∧
    (∀ token, (tracker.extendShell? token).isSome →
      token.role = .blank ∨ block.accepts token ∧
        (token.role.isStructural → block.startIndent < token.indent) ∧
        (block.explicit → block.startIndent < token.indent)) ∧
    ∃ script above old span below blanks,
      scriptAfter mode kind done = some script ∧
      script.opener ∈ done ∧ script.lines.Sublist done ∧
      block.startIndent = script.opener.indent ∧
      tracker.out = above ++ old ++ below ∧
      (tracker.reopened = none → old = [] ∧ below = []) ∧
      closed.out = above ++ span ++ below ++ blanks ∧ (blanks = [] ∨ blanks = [[]]) ∧
      block.IsWritten script.lines tracker.shellPlacement.depth span := by
  intro tracker closed
  refine ⟨?_, ?_, ?_⟩
  · intro token next
    obtain ⟨rest, rfl⟩ := List.head?_eq_some_iff.mp next
    exact tracker.push_absorbs_or_flushes
      (classified_of_mem (split ▸ List.mem_append_right _ List.mem_cons_self))
  · intro token absorbs
    obtain ⟨extended, absorbs⟩ := Option.isSome_iff_exists.mp absorbs
    obtain ⟨other, _, shell, ⟨isBlank, _⟩ | ⟨_, accepts, _⟩, _⟩ :=
      Tracker.extendShell?_eq_some absorbs
    · exact .inl isBlank
    · obtain rfl : block = other := Option.some.inj (isOpen.symm.trans shell)
      exact .inr ⟨accepts, block.startIndent_lt_of_isStructural accepts,
        fun explicit => block.startIndent_lt_of_explicit explicit accepts⟩
  · obtain ⟨kept, ⟨pieces, recorded, account⟩, _⟩ := ledger_run mode kind text done later split
    obtain ⟨above, below, old, opener, lines, rfl, out, start, length, last, isScript⟩ :=
      recorded.of_open isOpen
    obtain ⟨gathered, aligned⟩ := account.sound_between
    obtain ⟨opens, inOrder⟩ := scriptAfter_lines isScript
    obtain ⟨blanks, areBlank, written⟩ := Tracker.flushShell_out isOpen out start length
    refine ⟨_, documentLines tracker.mode above, old,
      Tracker.shellLines tracker.mode block tracker.shellPlacement,
      below.flatMap (Piece.texts tracker.mode), blanks, isScript, opens, inOrder,
      gathered.startIndent, out, ?_, written, areBlank,
      ShellBlock.isWritten_shellLines gathered tracker.mode aligned⟩
    intro fresh
    have nothing : old.length = 0 := by
      rw [← length, Tracker.shellPlacement_of_fresh fresh]
    refine ⟨List.eq_nil_of_length_eq_zero nothing, ?_⟩
    rcases last with rfl | ⟨_, _, again⟩
    · rfl
    · rw [fresh] at again
      cases again

/-- A line of a script below a shell key is absorbed by the block of the key, which is written
before the next task. -/
theorem shell_block_contained_script :
    let text := "shell: ls\nls -l\nname: b\n".toList
    let done := (tokens .incremental .taskList text).take 2
    let tracker := trackerAfter .incremental .taskList done
    ∃ block, tracker.nesting.shell = some block ∧
      ∃ script above span rest, scriptAfter .incremental .taskList done = some script ∧
        script.lines = done.drop 1 ∧ tracker.flushShell.out = above ++ span ++ rest ∧
        block.IsWritten script.lines tracker.shellPlacement.depth span := by
  intro text done tracker
  have isOpen : tracker.nesting.shell = some
      { key := "shell".toList
        indicator := "|".toList
        startIndent := 0
        explicit := false
        inline := some "ls".toList
        body := [⟨0, "ls -l".toList⟩]
        pendingBlanks := 0 } := by
    decide +kernel
  obtain ⟨_, _, script, above, old, span, below, blanks, isScript, _, _, _, _, _, out, _, written⟩ :=
    shell_block_contained .incremental .taskList text (List.take_append_drop 2 _).symm isOpen
  have lines : (scriptAfter .incremental .taskList done).map Script.lines = some (done.drop 1) := by
    decide +kernel
  refine ⟨_, isOpen, script, above, span, below ++ blanks, isScript, ?_, ?_, written⟩
  · rw [isScript] at lines
    exact Option.some.inj lines
  · rw [out, List.append_assoc _ below]

end Rebuild

end PlaybookRepair
