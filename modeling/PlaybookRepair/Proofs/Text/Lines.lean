import PlaybookRepair.Proofs.Text.Trim

/-!
# Texts of one line

A text without a line feed takes up one line (`Text.IsLine`). The lines of any text are of this
kind, and lines of this kind are found again in the text that they are joined to
(`pieces_joinLines`).
-/

namespace PlaybookRepair.Text

/-- The text holds no line feed. -/
def IsLine (text : Text) : Prop := '\n' ∉ text

instance (text : Text) : Decidable text.IsLine := inferInstanceAs (Decidable ('\n' ∉ text))

theorem IsLine.of_subset {text part : Text} (isLine : text.IsLine) (subset : part ⊆ text) :
    part.IsLine :=
  fun member => isLine (subset member)

theorem isLine_append {first second : Text} :
    (first ++ second).IsLine ↔ first.IsLine ∧ second.IsLine := by
  unfold IsLine
  rw [List.mem_append, not_or]

theorem isLine_cons {c : Char} {rest : Text} :
    IsLine (c :: rest) ↔ '\n' ≠ c ∧ rest.IsLine := by
  unfold IsLine
  rw [List.mem_cons, not_or]

theorem isLine_nil : IsLine [] := List.not_mem_nil

theorem isLine_replicate_space (count : Nat) : IsLine (List.replicate count ' ') := by
  intro member
  exact absurd (List.eq_of_mem_replicate member) (by decide)

/-- Whether all characters of a text have a property is decided along the text: the instance for
`∀ c : Char` would go through every character there is. -/
instance (priority := high) decidableForallMem {p : Char → Prop} [DecidablePred p] (text : Text) :
    Decidable (∀ c ∈ text, p c) :=
  List.decidableBAll p text

/-- The lines of a text take up one line each. -/
theorem isLine_of_mem_lines {text line : Text} (member : line ∈ lines text) : line.IsLine := by
  fun_induction lines text generalizing line with
  | case1 => cases member
  | case2 rest ih =>
      rcases List.mem_cons.mp member with rfl | later
      · exact isLine_nil
      · exact ih later
  | case3 rest ih =>
      rcases List.mem_cons.mp member with rfl | later
      · exact isLine_nil
      · exact ih later
  | case4 c rest notFeed _ _ _ =>
      rw [List.mem_singleton.mp member]
      exact isLine_cons.mpr ⟨Ne.symm notFeed, isLine_nil⟩
  | case5 c rest notFeed _ first more found ih =>
      rw [found] at ih
      rcases List.mem_cons.mp member with rfl | later
      · exact isLine_cons.mpr ⟨Ne.symm notFeed, ih List.mem_cons_self⟩
      · exact ih (List.mem_cons_of_mem _ later)

/-- A line before a separator is a piece of its own. -/
theorem pieces_append_cons {mark : Char} {piece : Text} (unmarked : mark ∉ piece) (rest : Text) :
    pieces mark (piece ++ mark :: rest) = piece :: pieces mark rest := by
  induction piece with
  | nil => rw [List.nil_append, pieces, if_pos rfl]
  | cons c piece ih =>
      rw [List.mem_cons, not_or] at unmarked
      rw [List.cons_append, pieces, if_neg (Ne.symm unmarked.1), ih unmarked.2]

/-- Lines that are joined by line feeds, with one more at the end, are the pieces between them. -/
theorem pieces_joinLines {lines : List Text} (notEmpty : lines ≠ [])
    (areLines : ∀ line ∈ lines, line.IsLine) :
    pieces '\n' (List.intercalate ['\n'] lines ++ ['\n']) = lines ++ [[]] := by
  induction lines with
  | nil => exact (notEmpty rfl).elim
  | cons line rest ih =>
      have isLine : '\n' ∉ line := areLines line List.mem_cons_self
      by_cases last : rest = []
      · rw [last, List.intercalate_singleton, pieces_append_cons isLine]
        rfl
      · rw [List.intercalate_cons_of_ne_nil last, List.append_assoc, List.append_assoc,
          List.singleton_append, pieces_append_cons isLine,
          ih last fun other member => areLines other (List.mem_cons_of_mem _ member)]
        rfl

/-- A line that does not end with a carriage return is found again before its line feed. -/
theorem lines_append_feed {line : Text} (isLine : line.IsLine)
    (noReturn : line.getLast? ≠ some '\r') (rest : Text) :
    lines (line ++ '\n' :: rest) = line :: lines rest := by
  induction line with
  | nil => rfl
  | cons c line ih =>
      rw [isLine_cons] at isLine
      have inner : line.getLast? ≠ some '\r' := by
        intro ends
        apply noReturn
        rw [List.getLast?_cons, ends]
        rfl
      have found := ih isLine.2 inner
      rw [List.cons_append, lines.eq_def]
      split
      · next empty => cases empty
      · next feed => exact (isLine.1 (List.cons.inj feed).1.symm).elim
      · next returnFeed =>
          obtain ⟨rfl, feed⟩ := List.cons.inj returnFeed
          cases line with
          | nil => exact (noReturn rfl).elim
          | cons d line =>
              obtain ⟨rfl, _⟩ := List.cons.inj feed
              exact ((isLine_cons.mp isLine.2).1 rfl).elim
      · next split =>
          obtain ⟨rfl, rfl⟩ := List.cons.inj split
          rw [found]

/-- Lines that do not end with a carriage return are found again in the text that they are joined
to. -/
theorem lines_joinLines {all : List Text} (notEmpty : all ≠ [])
    (areLines : ∀ line ∈ all, line.IsLine ∧ line.getLast? ≠ some '\r') :
    lines (List.intercalate ['\n'] all ++ ['\n']) = all := by
  induction all with
  | nil => exact (notEmpty rfl).elim
  | cons line rest ih =>
      obtain ⟨isLine, noReturn⟩ := areLines line List.mem_cons_self
      by_cases last : rest = []
      · rw [last, List.intercalate_singleton, lines_append_feed isLine noReturn]
        rfl
      · rw [List.intercalate_cons_of_ne_nil last, List.append_assoc, List.append_assoc,
          List.singleton_append, lines_append_feed isLine noReturn,
          ih last fun other member => areLines other (List.mem_cons_of_mem _ member)]

end PlaybookRepair.Text
