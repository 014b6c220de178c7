import Mathlib.Data.List.ReduceOption
import PlaybookRepair.Proofs.Text.Trim
import PlaybookRepair.Proofs.Tracker.Effect

/-!
# Gathered scripts

A shell block that has gathered some lines holds their contents in the order in which they came and
nothing else but blank lines between them (`ShellBlock.Gathered`). Opening a block, adding a line or
a blank line to it and taking it up again keep this in step. Such a block is written as the line of
its key and, two columns deeper at least, the inline command if lines have been gathered after it,
and the gathered lines with their blank lines (`shellLines_eq`).
-/

namespace PlaybookRepair

open InlineValue (stripQuotes)

namespace ShellBlock

section SameHeader

variable {block opened : ShellBlock}

theorem SameHeader.refl (block : ShellBlock) : block.SameHeader block := ⟨rfl, rfl, rfl, rfl, rfl⟩

theorem SameHeader.push (same : block.SameHeader opened) (token : LineToken) :
    (block.push token).SameHeader opened :=
  ⟨same.key, same.indicator, same.startIndent, same.explicit, same.inline⟩

theorem SameHeader.pushBlank (same : block.SameHeader opened) :
    block.pushBlank.SameHeader opened :=
  ⟨same.key, same.indicator, same.startIndent, same.explicit, same.inline⟩

theorem SameHeader.reopen (same : block.SameHeader opened) : block.reopen.SameHeader opened :=
  ⟨same.key, same.indicator, same.startIndent, same.explicit, same.inline⟩

end SameHeader

/-- A line of the body of a block, or a blank line between two of them. -/
def bodyEntry : Option LineToken → ScriptLine
  | some token => scriptLine token
  | none => ⟨0, []⟩

/-- The block has opened on a line and gathered lines since, which are given in their order and with
the blank lines between them; a line of a script is the first line that its own block gathers. -/
structure Gathered (block : ShellBlock) (opener : LineToken) (lines : List (Option LineToken)) :
    Prop where
  header : (opener.IsShellKey ∧ block.SameHeader (.ofModule opener)) ∨
    (opener.IsFragment ∧ block.SameHeader (.ofFragment opener) ∧ lines.head? = some (some opener))
  body : block.body = lines.map bodyEntry
  last : lines.getLast? ≠ some none
  contents : ∀ token ∈ lines.reduceOption, token.content ≠ []

theorem gathered_ofModule {token : LineToken} (isKey : token.IsShellKey) :
    (ofModule token).Gathered token [] where
  header := .inl ⟨isKey, .refl _⟩
  body := rfl
  last := by simp
  contents := by simp

theorem gathered_ofFragment {token : LineToken} (isFragment : token.IsFragment)
    (hasContent : token.content ≠ []) : (ofFragment token).Gathered token [some token] where
  header := .inr ⟨isFragment, .refl _, rfl⟩
  body := rfl
  last := by simp
  contents := by simpa [List.reduceOption] using hasContent

section

variable {block : ShellBlock} {opener token : LineToken} {lines : List (Option LineToken)}

/-- The blank lines that have come since the last gathered line, if the next line brings them in. -/
def takenBlanks (block : ShellBlock) : Nat :=
  if block.body.isEmpty && block.inline.isNone then 0 else block.pendingBlanks

/-- Of gathered lines the blank lines between them do not count. -/
theorem reduceOption_push (lines : List (Option LineToken)) (blanks : Nat) (token : LineToken) :
    (lines ++ List.replicate blanks none ++ [some token]).reduceOption =
      lines.reduceOption ++ [token] := by
  rw [List.reduceOption_append, List.reduceOption_append, List.reduceOption_replicate_none,
    List.append_nil]
  rfl

/-- A line comes after the body of a block and the blank lines that it brings in. -/
theorem body_push (block : ShellBlock) (token : LineToken) :
    (block.push token).body = block.body ++
      (List.replicate block.takenBlanks none ++ [some token]).map bodyEntry := by
  have blanks : (if block.body.isEmpty && block.inline.isNone then []
      else List.replicate block.pendingBlanks ⟨0, []⟩) =
        (List.replicate block.takenBlanks none).map bodyEntry := by
    rw [List.map_replicate]
    unfold takenBlanks
    split <;> rfl
  rw [ShellBlock.push, blanks, List.append_assoc, List.map_append]
  rfl

theorem Gathered.push (gathered : block.Gathered opener lines) (hasContent : token.content ≠ []) :
    (block.push token).Gathered opener
      (lines ++ List.replicate block.takenBlanks none ++ [some token]) where
  header := by
    rcases gathered.header with ⟨isKey, same⟩ | ⟨isFragment, same, first⟩
    · exact .inl ⟨isKey, same.push token⟩
    · refine .inr ⟨isFragment, same.push token, ?_⟩
      rw [List.head?_append, List.head?_append, first]
      rfl
  body := by rw [body_push, gathered.body, List.append_assoc, ← List.map_append]
  last := by simp
  contents := by
    intro added member
    rw [reduceOption_push] at member
    rcases List.mem_append.mp member with earlier | last
    · exact gathered.contents added earlier
    · rw [List.mem_singleton.mp last]
      exact hasContent

theorem Gathered.pushBlank (gathered : block.Gathered opener lines) :
    block.pushBlank.Gathered opener lines where
  header := gathered.header.imp (fun ⟨isKey, same⟩ => ⟨isKey, same.pushBlank⟩)
    (fun ⟨isFragment, same, first⟩ => ⟨isFragment, same.pushBlank, first⟩)
  body := gathered.body
  last := gathered.last
  contents := gathered.contents

theorem Gathered.reopen (gathered : block.Gathered opener lines) :
    block.reopen.Gathered opener lines where
  header := gathered.header.imp (fun ⟨isKey, same⟩ => ⟨isKey, same.reopen⟩)
    (fun ⟨isFragment, same, first⟩ => ⟨isFragment, same.reopen, first⟩)
  body := gathered.body
  last := gathered.last
  contents := gathered.contents

/-- A block that has the header of a block scalar in the source has no inline command. -/
theorem Gathered.inline_of_explicit (gathered : block.Gathered opener lines)
    (explicit : block.explicit) : block.inline = none := by
  rcases gathered.header with ⟨_, same⟩ | ⟨_, same, _⟩
  · rw [same.explicit] at explicit
    rw [same.inline]
    simp only [ofModule] at explicit ⊢
    simp only [explicit, Bool.or_true, ↓reduceIte]
  · rw [same.explicit] at explicit
    exact absurd explicit (by simp [ofFragment])

theorem Gathered.body_isEmpty (gathered : block.Gathered opener lines) :
    block.body.isEmpty = lines.isEmpty := by
  rw [gathered.body, List.isEmpty_map]

/-- Lines have been gathered exactly if there are any between which blank lines may stand. -/
theorem Gathered.reduceOption_eq_nil_iff (gathered : block.Gathered opener lines) :
    lines.reduceOption = [] ↔ lines = [] := by
  constructor
  · intro noLine
    cases last : lines.getLast? with
    | none => exact List.getLast?_eq_none_iff.mp last
    | some entry =>
        cases entry with
        | none => exact (gathered.last last).elim
        | some token =>
            have member : token ∈ lines.reduceOption :=
              List.reduceOption_mem_iff.mpr (List.mem_of_getLast? last)
            rw [noLine] at member
            exact absurd member List.not_mem_nil
  · rintro rfl
    rfl

end

/-! ## Writing a block -/

theorem headerText_ne_nil (block : ShellBlock) : block.headerText ≠ [] := by
  unfold headerText keyLine
  split
  · split <;> simp
  · simp

/-- The line with the key of a block; it carries the list marker of its task if the task still lacks
one. -/
def headerLine (block : ShellBlock) (placement : Placement) : Text :=
  if placement.dashed then indented taskColumn (listItemText block.headerText)
  else indented placement.depth block.headerText

theorem headerLine_ne_nil (block : ShellBlock) (placement : Placement) :
    block.headerLine placement ≠ [] := by
  unfold headerLine
  split
  · rw [indented_listItemText]
    exact List.append_ne_nil_of_right_ne_nil _ (List.cons_ne_nil _ _)
  · rw [indented_of_ne_nil _ block.headerText_ne_nil]
    exact List.append_ne_nil_of_right_ne_nil _ block.headerText_ne_nil

/-- The key of a block stands at the column of its place, perhaps after a list marker. -/
theorem headerLine_eq (block : ShellBlock) {placement : Placement}
    (aligned : placement.dashed → placement.depth = taskKeyColumn) :
    ∃ margin marker, block.headerLine placement =
        List.replicate margin ' ' ++ marker ++ block.headerText ∧
      (marker = [] ∨ marker = "- ".toList) ∧ margin + marker.length = placement.depth := by
  unfold headerLine
  split
  · next dashed =>
      refine ⟨taskColumn, "- ".toList, ?_, .inr rfl, (aligned dashed).symm⟩
      rw [indented_listItemText, List.append_assoc]
      rfl
  · refine ⟨placement.depth, [], ?_, .inl rfl, rfl⟩
    rw [indented_of_ne_nil _ block.headerText_ne_nil, List.append_nil]

/-- The inline command of a block as the first line of its script, if the script goes on. -/
def seedLines (block : ShellBlock) (placement : Placement) : List Text :=
  if block.body.isEmpty then []
  else block.inline.toList.map fun value =>
    indented (placement.depth + indentStep) (stripQuotes value)

/-- How far a line stands right of the other lines of its script. -/
def relativeIndent (mode : RebuildMode) (block : ShellBlock) (token : LineToken) : Nat :=
  if mode = .incremental && block.explicit then token.indent - baseIndent block.body else 0

/-- A gathered line or a blank line between two of them, as it is written. -/
def writtenEntry (mode : RebuildMode) (block : ShellBlock) (placement : Placement) :
    Option LineToken → Text
  | some token =>
    indented (placement.depth + indentStep + relativeIndent mode block token) token.content
  | none => []

theorem writtenEntry_some {block : ShellBlock} {token : LineToken} (hasContent : token.content ≠ [])
    (mode : RebuildMode) (placement : Placement) :
    block.writtenEntry mode placement (some token) =
      List.replicate (placement.depth + 2 + block.relativeIndent mode token) ' ' ++
        token.content :=
  indented_of_ne_nil _ hasContent

/-- A block with nothing but its line has no lines below it. -/
theorem render_of_line {block : ShellBlock} (isLine : !block.explicit && block.body.isEmpty)
    (keepRelative : Bool) : block.render keepRelative = [(0, block.headerText)] := by
  rw [render, headerText, if_pos isLine, if_pos isLine]

/-- The inline command and the gathered lines of any other block stand below its line. -/
theorem render_of_script {block : ShellBlock} (isScript : ¬ (!block.explicit && block.body.isEmpty))
    (keepRelative : Bool) :
    block.render keepRelative = (0, block.headerText) ::
      (block.inline.toList.map (fun value => (indentStep, stripQuotes value)) ++
        block.body.map fun line =>
          if line.text.isEmpty then (0, [])
          else (indentStep + (if keepRelative && block.explicit then
            line.indent - baseIndent block.body else 0), line.text)) := by
  rw [render, headerText, if_neg isScript, if_neg isScript]
  rfl

/-- The lines of a block: its key, its inline command if lines have been gathered after it, and the
gathered lines. -/
theorem shellLines_eq {block : ShellBlock} {opener : LineToken} {lines : List (Option LineToken)}
    (gathered : block.Gathered opener lines) (mode : RebuildMode) (placement : Placement) :
    Tracker.shellLines mode block placement = block.headerLine placement ::
      (block.seedLines placement ++ lines.map (block.writtenEntry mode placement)) := by
  by_cases isLine : !block.explicit && block.body.isEmpty
  · have noBody := (Bool.and_eq_true_iff.mp isLine).2
    have noLines : lines = [] := by
      rw [gathered.body_isEmpty] at noBody
      exact List.isEmpty_iff.mp noBody
    rw [Tracker.shellLines, render_of_line isLine, seedLines, if_pos noBody, noLines]
    rfl
  · have seeds : block.seedLines placement = (block.inline.toList.map fun value =>
        (indentStep, stripQuotes value)).map fun entry =>
          indented (placement.depth + entry.1) entry.2 := by
      unfold seedLines
      rw [List.map_map]
      split
      · next empty =>
          rw [gathered.inline_of_explicit (by simpa [empty] using isLine)]
          rfl
      · rfl
    rw [Tracker.shellLines, render_of_script isLine, seeds]
    dsimp only
    rw [List.map_append, headerLine, Nat.add_zero, gathered.body]
    congr 2
    rw [List.map_map, List.map_map]
    refine List.map_congr_left fun entry member => ?_
    cases entry with
    | none => rfl
    | some token =>
        have notEmpty : token.content.isEmpty = false := List.isEmpty_eq_false_iff.mpr
          (gathered.contents token (List.reduceOption_mem_iff.mpr member))
        simp only [writtenEntry, relativeIndent, Function.comp_apply, bodyEntry, scriptLine,
          notEmpty, Bool.false_eq_true, ↓reduceIte, gathered.body, Nat.add_assoc]

end ShellBlock

end PlaybookRepair
