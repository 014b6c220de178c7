import Mathlib.Data.List.Count
import Mathlib.Data.List.DropRight
import PlaybookRepair.Text.Basic

/-!
# Trimmed texts

A trimmed text is a part of the text it comes from and does not start with a blank. What trimming
takes away from the left is the margin of the text; put before a trimmed text again, a margin can be
trimmed off without loss. Trimming takes away blanks only, so it keeps the number of the other
characters (`solidCount_trim`).
-/

namespace PlaybookRepair.Text

/-- The blanks that a text starts with. -/
def margin (text : Text) : Text := text.takeWhile isBlank

theorem margin_append_trimStart (text : Text) : margin text ++ trimStart text = text :=
  List.takeWhile_append_dropWhile

theorem trimEnd_isPrefixOf (text : Text) : trimEnd text <+: text := by
  unfold trimEnd
  rw [← List.reverse_suffix, List.reverse_reverse]
  exact List.dropWhile_suffix _

theorem trim_isInfixOf (text : Text) : trim text <:+: text :=
  (trimEnd_isPrefixOf _).isInfix.trans (List.dropWhile_suffix _).isInfix

theorem mem_of_mem_trim {text : Text} {c : Char} (member : c ∈ trim text) : c ∈ text :=
  (trim_isInfixOf text).subset member

theorem mem_of_mem_trimStart {text : Text} {c : Char} (member : c ∈ trimStart text) : c ∈ text :=
  (List.dropWhile_suffix _).subset member

theorem mem_of_mem_trimEnd {text : Text} {c : Char} (member : c ∈ trimEnd text) : c ∈ text :=
  (trimEnd_isPrefixOf _).subset member

/-- A trimmed text does not start with a blank. -/
theorem isBlank_head_trim {text rest : Text} {c : Char} (starts : trim text = c :: rest) :
    isBlank c = false := by
  obtain ⟨tail, whole⟩ := trimEnd_isPrefixOf (trimStart text)
  have first : (trimStart text).head? = some c := by
    rw [← whole]
    change (trim text ++ tail).head? = some c
    rw [starts]
    rfl
  have kept := List.head?_dropWhile_not isBlank text
  unfold trimStart at first
  rw [first] at kept
  exact kept

/-- A margin before a text that does not start with a blank is trimmed off. -/
theorem trimStart_append {blanks text : Text} (areBlank : ∀ c ∈ blanks, isBlank c)
    (starts : ∀ c rest, text = c :: rest → isBlank c = false) :
    trimStart (blanks ++ text) = text := by
  unfold trimStart
  rw [List.dropWhile_append_of_pos areBlank]
  cases text with
  | nil => rfl
  | cons c rest => exact List.dropWhile_cons_of_neg (by simp [starts c rest rfl])

/-- A trimmed text behind a margin is found again by trimming. -/
theorem trim_append_trim {blanks : Text} (areBlank : ∀ c ∈ blanks, isBlank c) (text : Text) :
    trim (blanks ++ trim text) = trim text := by
  have start : trimStart (blanks ++ trim text) = trim text :=
    trimStart_append areBlank fun _ _ starts => isBlank_head_trim starts
  rw [trim, start, trim, trimEnd, trimEnd, List.reverse_reverse, List.dropWhile_idempotent]

/-- Trimming the end of a text that is not blank leaves its margin and its trimmed text. -/
theorem trimEnd_eq {text : Text} (notBlank : trim text ≠ []) :
    trimEnd text = margin text ++ trim text := by
  have reversed : ((trimStart text).reverse.dropWhile isBlank).isEmpty = false := by
    rw [List.isEmpty_eq_false_iff]
    intro empty
    apply notBlank
    unfold trim trimEnd
    rw [empty]
    rfl
  calc trimEnd text
      = trimEnd (margin text ++ trimStart text) := by rw [margin_append_trimStart]
    _ = margin text ++ trim text := ?_
  unfold trim trimEnd
  rw [List.reverse_append, List.dropWhile_append]
  simp only [reversed, Bool.false_eq_true, ↓reduceIte, List.reverse_append, List.reverse_reverse]

/-- A trimmed text does not end with a blank. -/
theorem isBlank_getLast_trim {text : Text} {c : Char} (ends : (trim text).getLast? = some c) :
    isBlank c = false := by
  have kept := List.head?_dropWhile_not isBlank (trimStart text).reverse
  rw [trim, trimEnd, List.getLast?_reverse] at ends
  rwa [ends] at kept

/-- A text without blanks at its ends stays as it is when it is trimmed. -/
theorem trim_eq_self {text : Text} (starts : ∀ c, text.head? = some c → isBlank c = false)
    (ends : ∀ c, text.getLast? = some c → isBlank c = false) : trim text = text := by
  have keep {part : Text} (first : ∀ c, part.head? = some c → isBlank c = false) :
      part.dropWhile isBlank = part := by
    cases part with
    | nil => rfl
    | cons c rest => exact List.dropWhile_cons_of_neg (by simp [first c rfl])
  have start : trimStart text = text := keep starts
  have reversed : text.reverse.dropWhile isBlank = text.reverse := keep (by simpa using ends)
  rw [trim, start, trimEnd, reversed, List.reverse_reverse]

theorem trimEnd_trim (text : Text) : trimEnd (trim text) = trim text := by
  rw [trim, trimEnd, trimEnd, List.reverse_reverse, List.dropWhile_idempotent]

/-! ## Characters that are not blank -/

/-- The number of characters of a text that are not blank. -/
def solidCount (text : Text) : Nat := text.countP fun c => !isBlank c

@[simp] theorem solidCount_nil : solidCount [] = 0 := rfl

@[simp] theorem solidCount_append (first second : Text) :
    solidCount (first ++ second) = solidCount first + solidCount second :=
  List.countP_append

@[simp] theorem solidCount_cons (c : Char) (rest : Text) :
    solidCount (c :: rest) = solidCount rest + if isBlank c then 0 else 1 := by
  rw [solidCount, List.countP_cons, solidCount]
  cases isBlank c <;> rfl

theorem solidCount_dropWhile (text : Text) : solidCount (text.dropWhile isBlank) = solidCount text := by
  have blank : solidCount (text.takeWhile isBlank) = 0 := by
    rw [solidCount, List.countP_eq_zero]
    intro c member
    simp [List.mem_takeWhile_imp member]
  conv_rhs => rw [← List.takeWhile_append_dropWhile (p := isBlank) (l := text), solidCount_append, blank]
  exact (Nat.zero_add _).symm

@[simp] theorem solidCount_trim (text : Text) : solidCount (trim text) = solidCount text := by
  have reversed (part : Text) : solidCount part.reverse = solidCount part := List.countP_reverse
  rw [trim, trimEnd, reversed, solidCount_dropWhile, reversed, trimStart, solidCount_dropWhile]

end PlaybookRepair.Text
