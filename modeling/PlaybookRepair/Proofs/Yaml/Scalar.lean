import Mathlib.Tactic.Common
import PlaybookRepair.InlineValue
import PlaybookRepair.Proofs.Text.Lines
import PlaybookRepair.Yaml.Resolution
import PlaybookRepair.Yaml.TokenStream

/-!
# Scalars that are written on one line

A text without line breaks reads back from between double quotes as itself, once its quotes and
backslashes are escaped. Without quotes it reads back if no colon in it ends it, no number sign
starts a comment and its last character is no space.
-/

namespace PlaybookRepair.Yaml

theorem readableFrom_of_allowed {text : Text} (allowed : ∀ c ∈ text, isAllowed c) :
    ∀ room offset, readableFrom room offset text = .ok (text, none) := by
  induction text with
  | nil => intro room offset; rfl
  | cons c rest ih =>
    intro room offset
    have first : isAllowed c := allowed c List.mem_cons_self
    have later := ih fun d member => allowed d (List.mem_cons_of_mem c member)
    simp only [readableFrom, first, later, ↓reduceIte, Except.map]

/-- A text in which every character is allowed can be read to its end. -/
theorem readable_of_allowed {text : Text} (allowed : ∀ c ∈ text, isAllowed c) :
    readable text = (text, none) := by
  simp only [readable, readableFrom_of_allowed allowed]

@[simp] theorem Mark.advance_advance (mark : Mark) (first second : Nat) :
    (mark.advance first).advance second = mark.advance (first + second) := by
  simp only [advance, Nat.add_assoc]

@[simp] theorem Mark.advance_column (mark : Mark) (width : Nat) :
    (mark.advance width).column = mark.column + width := rfl

/-- Line feeds that end a line and the blank lines below it, and the spaces before the text of the
next line. -/
def lineGap (blank width : Nat) : Text :=
  List.replicate (blank + 1) '\n' ++ List.replicate width ' '

theorem lineGap_succ (blank width : Nat) :
    lineGap (blank + 1) width = '\n' :: lineGap blank width := rfl

/-- The position after a gap between lines. -/
def Mark.afterGap (mark : Mark) (blank width : Nat) : Mark :=
  ⟨mark.index + (blank + 1 + width), mark.line + (blank + 1), width⟩

theorem Mark.afterGap_newLine (mark : Mark) (blank width : Nat) :
    (mark.newLine 1).afterGap blank width = mark.afterGap (blank + 1) width := by
  simp only [newLine, afterGap, mk.injEq, and_true]
  omega

namespace Gap

variable {gap : Gap} (c : Char)

theorem text_of_not_broken (inline : gap.broken = false) : gap.text = gap.spaces := by
  simp only [text, inline, Bool.not_false, ↓reduceIte]

theorem addSpace_broken (inline : gap.broken = false) : (gap.addSpace c).broken = false := by
  simp only [addSpace, inline, Bool.false_eq_true, ↓reduceIte]

theorem addSpace_text (inline : gap.broken = false) :
    (gap.addSpace c).text = gap.text ++ [c] := by
  rw [text_of_not_broken (addSpace_broken c inline), text_of_not_broken inline]
  simp only [addSpace, inline, Bool.false_eq_true, ↓reduceIte]

@[simp] theorem empty_text : Gap.empty.text = [] := rfl

@[simp] theorem empty_broken : Gap.empty.broken = false := rfl

@[simp] theorem empty_isEmpty : Gap.empty.isEmpty = true := rfl

end Gap

theorem ne_carriageReturn_of_not_break {c : Char} (unbroken : isBreak c = false) : c ≠ '\r' := by
  rintro rfl
  exact absurd unbroken (by decide)

namespace QuotedScalar

variable {quote : Char} {start mark : Mark} {gap : Gap} {c : Char} {rest : Text}

/-- The reading of a character that breaks no line. -/
theorem readFrom_cons (unbroken : isBreak c = false) :
    readFrom quote start (.text gap) (c :: rest) mark =
      if isSpace c then readFrom quote start (.text (gap.addSpace c)) rest (mark.advance 1)
      else if mark.column = 0 && startsDocumentSign (c :: rest) then
        fail .quotedScalar start .unexpectedDocumentSign mark
      else if c = quote then
        match quote, rest with
        | '\'', '\'' :: rest => do
          let (value, cursor) ← readFrom quote start (.text .empty) rest (mark.advance 2)
          return (gap.text ++ '\'' :: value, cursor)
        | _, rest => .ok (gap.text, ⟨rest, mark.advance 1⟩)
      else if quote = '"' && c = '\\' then do
        let (value, cursor) ← readFrom quote start (.escape mark) rest (mark.advance 1)
        return (gap.text ++ value, cursor)
      else do
        let (value, cursor) ← readFrom quote start (.text .empty) rest (mark.advance 1)
        return (gap.text ++ c :: value, cursor) := by
  rw [readFrom.eq_def]
  split
  case h_2 same => exact absurd (List.cons.inj same).1 (ne_carriageReturn_of_not_break unbroken)
  case h_3 sameState sameText =>
    cases sameState
    cases sameText
    simp only [unbroken, Bool.false_eq_true, ↓reduceIte]
    rfl
  all_goals simp_all

/-- The reading of an escape that a letter or a sign ends. -/
theorem readFrom_escape_cons {backslash : Mark} {escaped : Char} (unbroken : isBreak c = false)
    (found : escapes.lookup c = some escaped) :
    readFrom quote start (.escape backslash) (c :: rest) mark =
      (readFrom quote start (.text .empty) rest (mark.advance 1)).map fun read =>
        (escaped :: read.1, read.2) := by
  rw [readFrom.eq_def]
  split
  case h_5 same => exact absurd (List.cons.inj same).1 (ne_carriageReturn_of_not_break unbroken)
  case h_6 sameState sameText =>
    cases sameState
    cases sameText
    simp only [unbroken, found, Bool.false_eq_true, ↓reduceIte]
    generalize readFrom _ _ _ _ _ = read
    cases read <;> rfl
  all_goals simp_all

theorem readFrom_space (unbroken : isBreak c = false) (space : isSpace c) :
    readFrom quote start (.text gap) (c :: rest) mark =
      readFrom quote start (.text (gap.addSpace c)) rest (mark.advance 1) := by
  rw [readFrom_cons unbroken, if_pos space]

/-- A character that stands for itself. -/
theorem readFrom_char (unbroken : isBreak c = false) (solid : isSpace c = false)
    (inside : 0 < mark.column) (other : c ≠ quote) (literal : quote = '"' → c ≠ '\\') :
    readFrom quote start (.text gap) (c :: rest) mark =
      (readFrom quote start (.text .empty) rest (mark.advance 1)).map fun read =>
        (gap.text ++ c :: read.1, read.2) := by
  have plain : ¬(quote = '"' ∧ c = '\\') := fun both => literal both.1 both.2
  have column : ¬mark.column = 0 := by omega
  rw [readFrom_cons unbroken]
  simp only [solid, column, other, plain, decide_false, Bool.false_and, Bool.false_eq_true,
    ↓reduceIte, Bool.and_eq_true, decide_eq_true_eq]
  cases readFrom quote start (.text .empty) rest (mark.advance 1) <;> rfl

/-- An escaped quote or backslash. -/
theorem readFrom_escaped_char (inside : 0 < mark.column) (escaped : c = '\\' ∨ c = '"') :
    readFrom '"' start (.text gap) ('\\' :: c :: rest) mark =
      (readFrom '"' start (.text .empty) rest ((mark.advance 1).advance 1)).map fun read =>
        (gap.text ++ c :: read.1, read.2) := by
  have column : ¬mark.column = 0 := by omega
  have found : isBreak c = false ∧ escapes.lookup c = some c := by
    obtain rfl | rfl := escaped <;> decide
  rw [readFrom_cons (by decide), readFrom_escape_cons found.1 found.2]
  simp only [column, decide_false, Bool.false_and, Bool.false_eq_true, ↓reduceIte,
    (by decide : isSpace '\\' = false), (by decide : ¬ '\\' = '"'), decide_true, Bool.and_self]
  cases readFrom '"' start (.text .empty) rest ((mark.advance 1).advance 1) <;> rfl

theorem readFrom_close (inside : 0 < mark.column) :
    readFrom '"' start (.text gap) ('"' :: rest) mark =
      .ok (gap.text, ⟨rest, mark.advance 1⟩) := by
  have column : ¬mark.column = 0 := by omega
  rw [readFrom_cons (by decide)]
  simp only [column, decide_false, Bool.false_and, Bool.false_eq_true, ↓reduceIte,
    (by decide : isSpace '"' = false)]
  rfl

/-- A text with its quotes and backslashes escaped. -/
def escapeText (value : Text) : Text :=
  value.flatMap fun c => if c = '\\' || c = '"' then ['\\', c] else [c]

theorem escapeText_cons_of_escaped (escaped : c = '\\' ∨ c = '"') :
    escapeText (c :: rest) = '\\' :: c :: escapeText rest := by
  obtain rfl | rfl := escaped <;> rfl

theorem escapeText_cons_of_literal (literal : ¬(c = '\\' ∨ c = '"')) :
    escapeText (c :: rest) = c :: escapeText rest := by
  simp only [escapeText, List.flatMap_cons, Bool.or_eq_true, decide_eq_true_eq, literal,
    ↓reduceIte, List.singleton_append]

/-- An escaped text on one line reads back as itself, up to the closing quote. -/
theorem readFrom_escapeText {value : Text} (unbroken : ∀ c ∈ value, isBreak c = false) :
    ∀ {gap : Gap} {mark : Mark}, gap.broken = false → 0 < mark.column →
      readFrom '"' start (.text gap) (escapeText value ++ '"' :: rest) mark =
        .ok (gap.text ++ value, ⟨rest, mark.advance ((escapeText value).length + 1)⟩) := by
  induction value with
  | nil =>
    intro gap mark _ inside
    simp only [escapeText, List.flatMap_nil, List.nil_append, readFrom_close inside,
      List.append_nil, List.length_nil, Nat.zero_add]
  | cons c value ih =>
    intro gap mark inline inside
    have line := unbroken c List.mem_cons_self
    have later := @ih fun d member => unbroken d (List.mem_cons_of_mem c member)
    by_cases escaped : c = '\\' ∨ c = '"'
    · rw [escapeText_cons_of_escaped escaped, List.cons_append, List.cons_append,
        readFrom_escaped_char inside escaped, later rfl (by simp [Mark.advance])]
      simp [Except.map, Mark.advance]
      omega
    · have literal := escaped
      simp only [not_or] at literal
      rw [escapeText_cons_of_literal escaped, List.cons_append]
      by_cases space : isSpace c
      · rw [readFrom_space line space,
          later (Gap.addSpace_broken c inline) (by simp [Mark.advance]), Gap.addSpace_text c inline]
        simp [Mark.advance]
        omega
      · rw [readFrom_char line (by simpa using space) inside literal.2 fun _ => literal.1,
          later rfl (by simp [Mark.advance])]
        simp [Except.map, Mark.advance]
        omega

/-- Any text on one line reads back from between double quotes as itself. -/
theorem read_doubleQuoted {value : Text} (unbroken : ∀ c ∈ value, isBreak c = false)
    (rest : Text) (mark : Mark) :
    ∃ width, read '"' ⟨InlineValue.doubleQuoted value ++ rest, mark⟩ =
      .ok (value, ⟨rest, mark.advance width⟩) := by
  have inside : 0 < (mark.advance 1).column := Nat.succ_pos _
  have text : InlineValue.doubleQuoted value ++ rest = '"' :: (escapeText value ++ '"' :: rest) := by
    simp only [InlineValue.doubleQuoted, escapeText, List.cons_append, List.append_assoc,
      List.nil_append]
  refine ⟨1 + ((escapeText value).length + 1), ?_⟩
  rw [text]
  refine (readFrom_escapeText unbroken rfl inside).trans ?_
  simp only [Gap.empty_text, List.nil_append, Mark.advance, Nat.add_assoc]

end QuotedScalar

namespace PlainScalar

/-- Whether a text can stand in a plain scalar on one line, after a gap or not. -/
def Continues (afterGap : Bool) : Text → Prop
  | [] => True
  | c :: rest =>
    isBreak c = false ∧ (c = ':' → atSeparator rest = false) ∧ (c = '#' → afterGap = false) ∧
      Continues (isSpace c) rest

/-- Whether a plain scalar can start with a character that is no separator. Of the signs of YAML a
hyphen, a question mark and a colon can start one, if no separator follows them. -/
def Starts (c : Char) (rest : Text) : Prop :=
  TokenReader.indicators.contains c = false ∨
    (c = '-' ∨ c = '?' ∨ c = ':') ∧ atSeparator rest = false

/-- Whether a text is a plain scalar on one line. -/
structure IsPlain (text : Text) : Prop where
  continues : Continues false text
  endsSolid : ∀ c ∈ text.getLast?, isSpace c = false
  starts : ∃ c rest, text = c :: rest ∧ isSeparator c = false ∧ Starts c rest

instance decidableContinues : ∀ (afterGap : Bool) (text : Text), Decidable (Continues afterGap text)
  | _, [] => .isTrue trivial
  | _, c :: rest =>
    have := decidableContinues (isSpace c) rest
    inferInstanceAs (Decidable (_ ∧ _ ∧ _ ∧ _))

instance (c : Char) (rest : Text) : Decidable (Starts c rest) := inferInstanceAs (Decidable (_ ∨ _))

theorem not_isPlain_nil : ¬IsPlain [] := fun plain => by
  obtain ⟨_, _, same, -⟩ := plain.starts
  cases same

theorem isPlain_cons_iff {c : Char} {rest : Text} :
    IsPlain (c :: rest) ↔ Continues false (c :: rest) ∧
      isSpace ((c :: rest).getLast (List.cons_ne_nil c rest)) = false ∧ isSeparator c = false ∧
      Starts c rest := by
  have last := List.getLast?_eq_some_getLast (List.cons_ne_nil c rest)
  constructor
  · intro plain
    obtain ⟨_, _, same, solid, starts⟩ := plain.starts
    cases same
    exact ⟨plain.continues, plain.endsSolid _ last, solid, starts⟩
  · rintro ⟨continues, ends, solid, starts⟩
    refine ⟨continues, fun d isLast => ?_, c, rest, rfl, solid, starts⟩
    rw [last] at isLast
    exact Option.some.inj isLast ▸ ends

instance : DecidablePred IsPlain
  | [] => .isFalse not_isPlain_nil
  | _ :: _ => decidable_of_iff' _ isPlain_cons_iff

variable {place : Place} {gap : Gap} {mark : Mark} {c : Char} {text rest : Text}

/-- The reading of a character that breaks no line. After a gap it stands right of the
indentation. -/
theorem readFrom_cons (unbroken : isBreak c = false) (inline : gap.broken = false)
    (inside : gap.isEmpty = false → place.indent ≤ mark.column ∧ 0 < mark.column) :
    readFrom place gap (c :: rest) mark =
      if isSpace c then readFrom place (gap.addSpace c) rest (mark.advance 1)
      else if !gap.isEmpty && c = '#' then .ok ⟨[], false, ⟨c :: rest, mark⟩⟩
      else if place.inFlow && isColonBeforeSign (c :: rest) then
        fail .plainScalar place.start .unexpectedColon mark
      else if endsBefore place.inFlow (c :: rest) then .ok ⟨[], false, ⟨c :: rest, mark⟩⟩
      else
        (readFrom place .empty rest (mark.advance 1)).map fun scalar =>
          { scalar with value := gap.text ++ c :: scalar.value } := by
  have ends : (!gap.isEmpty && endsAfterGap place mark (c :: rest)) =
      (!gap.isEmpty && c = '#') := by
    cases empty : gap.isEmpty with
    | true => rfl
    | false =>
      have column : ¬mark.column < place.indent ∧ ¬mark.column = 0 := by
        have := inside empty
        omega
      simp [endsAfterGap, column]
  rw [readFrom.eq_def]
  split
  case h_2 same => exact absurd (List.cons.inj same).1 (ne_carriageReturn_of_not_break unbroken)
  case h_3 same =>
    cases same
    simp only [unbroken, inline, ends, Bool.false_eq_true, ↓reduceIte, Bool.false_and]
    generalize readFrom _ _ _ _ = read
    cases read <;> rfl
  case h_1 same => cases same

/-- In block context nothing but a comment and a colon before a separator ends a plain scalar within
its line. -/
theorem readFrom_cons_block (block : place.inFlow = false) (unbroken : isBreak c = false)
    (inline : gap.broken = false)
    (inside : gap.isEmpty = false → place.indent ≤ mark.column ∧ 0 < mark.column) :
    readFrom place gap (c :: rest) mark =
      if isSpace c then readFrom place (gap.addSpace c) rest (mark.advance 1)
      else if !gap.isEmpty && c = '#' then .ok ⟨[], false, ⟨c :: rest, mark⟩⟩
      else if c = ':' && atSeparator rest then .ok ⟨[], false, ⟨c :: rest, mark⟩⟩
      else
        (readFrom place .empty rest (mark.advance 1)).map fun scalar =>
          { scalar with value := gap.text ++ c :: scalar.value } := by
  rw [readFrom_cons unbroken inline inside]
  simp only [block, endsBefore, Bool.false_and, Bool.or_false, Bool.false_eq_true, ↓reduceIte]

theorem atSeparator_append_eq_false (solid : atSeparator text = false) :
    atSeparator (text ++ rest) = false := by
  cases text with
  | nil => exact absurd solid (by decide)
  | cons d text => exact solid

theorem Starts.append (starts : Starts c text) : Starts c (text ++ rest) :=
  starts.imp_right fun sign => ⟨sign.1, atSeparator_append_eq_false sign.2⟩

/-- A colon that does not end a scalar does not end it when the text goes on. -/
theorem not_endsBefore_append (colon : c = ':' → atSeparator text = false) :
    (c = ':' && atSeparator (text ++ rest)) = false := by
  by_cases isColon : c = ':'
  · simp only [atSeparator_append_eq_false (colon isColon), Bool.and_false]
  · simp only [isColon, decide_false, Bool.false_and]

/-- A plain scalar is read up to what ends it. -/
theorem readFrom_append (block : place.inFlow = false) :
    ∀ {gap : Gap} {mark : Mark}, gap.broken = false → place.indent ≤ mark.column + 1 →
      (gap.isEmpty = false → place.indent ≤ mark.column ∧ 0 < mark.column) → text ≠ [] →
      Continues (!gap.isEmpty) text → (∀ c ∈ text.getLast?, isSpace c = false) →
      readFrom place gap (text ++ rest) mark =
        (readFrom place .empty rest (mark.advance text.length)).map fun scalar =>
          { scalar with value := gap.text ++ text ++ scalar.value } := by
  induction text with
  | nil => exact fun _ _ _ nonempty => absurd rfl nonempty
  | cons c text ih =>
    intro gap mark inline near inside _ continues solid
    have further : place.indent ≤ (mark.advance 1).column ∧ 0 < (mark.advance 1).column := by
      simp only [Mark.advance_column]
      omega
    obtain ⟨unbroken, colon, comment, later⟩ := continues
    have next : ∀ last ∈ text.getLast?, isSpace last = false := by
      intro last member
      cases text with
      | nil => cases member
      | cons d text => exact solid last (by simpa using member)
    rw [List.cons_append, readFrom_cons_block block unbroken inline inside]
    by_cases space : isSpace c
    · have more : text ≠ [] := by
        rintro rfl
        exact absurd space (by simp [solid c rfl])
      have broken := Gap.addSpace_broken c inline
      have nonempty : (gap.addSpace c).isEmpty = false := by
        simp [Gap.isEmpty, Gap.addSpace, inline]
      rw [if_pos space, ih broken (by omega) (fun _ => further) more
        (by simpa [nonempty, space] using later) next]
      simp [Gap.addSpace_text c inline, Nat.add_comm 1]
    · have hash : (!gap.isEmpty && c = '#') = false := by
        by_cases isHash : c = '#'
        · simp only [comment isHash, Bool.false_and]
        · simp only [isHash, decide_false, Bool.and_false]
      rw [if_neg space, hash, not_endsBefore_append colon, if_neg Bool.false_ne_true,
        if_neg Bool.false_ne_true]
      cases text with
      | nil => simp
      | cons d text =>
        rw [ih rfl (by omega) (fun _ => further) (List.cons_ne_nil d text)
          (by simpa [space] using later) next, Mark.advance_advance, Nat.add_comm 1]
        cases readFrom place .empty rest (mark.advance ((d :: text).length + 1)) <;>
          simp [Except.map]

/-- The plain scalar at a cursor in block context. -/
theorem read_append {indent : Nat} (plain : IsPlain text) (near : indent ≤ mark.column + 1) :
    read false indent ⟨text ++ rest, mark⟩ =
      (readFrom ⟨false, indent, mark⟩ .empty rest (mark.advance text.length)).map fun scalar =>
        { scalar with value := text ++ scalar.value } := by
  obtain ⟨c, tail, starts, -⟩ := plain.starts
  refine readFrom_append rfl rfl near (by simp) ?_ plain.continues plain.endsSolid
  rw [starts]
  exact List.cons_ne_nil c tail

/-- A colon before a separator ends a plain scalar. -/
theorem readFrom_colon (block : place.inFlow = false) (ends : atSeparator rest) (mark : Mark) :
    readFrom place .empty (':' :: rest) mark = .ok ⟨[], false, ⟨':' :: rest, mark⟩⟩ := by
  rw [readFrom_cons_block block (by decide) rfl (by simp)]
  simp only [ends, (by decide : isSpace ':' = false), Gap.empty_isEmpty, Bool.not_true,
    Bool.false_and, decide_true, Bool.and_self, Bool.false_eq_true, ↓reduceIte]

/-- In a gap that has broken the line spaces count for nothing. -/
theorem readFrom_replicate_space (broken : gap.broken) (width : Nat) :
    ∀ mark, readFrom place gap (List.replicate width ' ' ++ rest) mark =
      readFrom place gap rest (mark.advance width) := by
  induction width with
  | zero => intro mark; rfl
  | succ width ih =>
    intro mark
    have same : gap.addSpace ' ' = gap := by simp only [Gap.addSpace, broken, ↓reduceIte]
    rw [List.replicate_succ, List.cons_append, readFrom]
    · simp only [(by decide : isBreak ' ' = false), (by decide : isSpace ' ' = true),
        (by decide : ¬ ' ' = '\t'), decide_false, Bool.and_false, Bool.false_eq_true, ↓reduceIte,
        same, ih, Mark.advance_advance, Nat.add_comm 1]
    · rintro _ ⟨⟩

theorem readFrom_newLine (mark : Mark) :
    readFrom place gap ('\n' :: rest) mark =
      readFrom place (gap.addBreak ['\n']) rest (mark.newLine 1) := by
  rw [readFrom]
  · rfl
  · rintro _ ⟨⟩

/-- On a line that is not indented far enough a plain scalar has ended. -/
theorem readFrom_nextLine (broken : gap.broken) (block : place.inFlow = false)
    (left : mark.column < place.indent) (next : ∀ c ∈ rest.head?, isSeparator c = false) :
    readFrom place gap rest mark = .ok ⟨[], true, ⟨rest, mark⟩⟩ := by
  cases rest with
  | nil => simp only [readFrom, broken]
  | cons c rest =>
    have solid := next c rfl
    simp only [isSeparator, Bool.or_eq_false_iff] at solid
    rw [readFrom]
    · simp only [solid, broken, block, left, Gap.isEmpty, endsAfterGap, decide_true, Bool.not_true,
        Bool.and_false, Bool.not_false, Bool.and_self, Bool.true_or, Bool.false_eq_true, ↓reduceIte]
    · rintro _ rfl _
      exact absurd solid.2 (by decide)

/-- A plain scalar ends with its line if the next text stands left of its indentation. -/
theorem readFrom_lineEnd (blank width : Nat) (block : place.inFlow = false)
    (left : width < place.indent) (next : ∀ c ∈ rest.head?, isSeparator c = false) :
    ∀ {gap : Gap} (mark : Mark),
      readFrom place gap (lineGap blank width ++ rest) mark =
        .ok ⟨[], true, ⟨rest, mark.afterGap blank width⟩⟩ := by
  induction blank with
  | zero =>
    intro gap mark
    have broken : (gap.addBreak ['\n']).broken := by
      simp only [Gap.addBreak]
      split <;> simp_all
    have moved : (mark.newLine 1).advance width = mark.afterGap 0 width := by
      simp [Mark.newLine, Mark.advance, Mark.afterGap, Nat.add_assoc]
    rw [lineGap, List.replicate_succ, List.cons_append, List.cons_append, List.replicate_zero,
      List.nil_append, readFrom_newLine, readFrom_replicate_space broken, moved]
    exact readFrom_nextLine broken block left next
  | succ blank ih =>
    intro gap mark
    rw [lineGap_succ, List.cons_append, readFrom_newLine, ih, Mark.afterGap_newLine]

end PlainScalar

end PlaybookRepair.Yaml

namespace PlaybookRepair.InlineValue

open Yaml (isBreak isSpace isSeparator atSeparator)
open Yaml.PlainScalar (Continues IsPlain)

/-- Whether a string that is written without quotes reads back as the same string: no tab makes a
colon the end of the scalar or a number sign the start of a comment, and the reader does not take
the string for a value of another kind. -/
structure IsPlainSafe (value : Text) : Prop where
  noColon : Text.holds ":\t".toList value = false
  noComment : Text.holds "\t#".toList value = false
  resolves : Yaml.Scalar.resolve value = .ok (.string value)

/-- Whether a string reads back as itself from the form that is chosen for it. -/
structure IsFaithful (value : Text) : Prop where
  /-- Every character is allowed in YAML, and none of them breaks the line. -/
  onOneLine : ∀ c ∈ value, Yaml.isAllowed c ∧ isBreak c = false
  plain : needsQuotes value = false → IsPlainSafe value

/-- Whether a string that is written without quotes reads back as itself. -/
def isPlainSafe (value : Text) : Bool :=
  !Text.holds [':', '\t'] value && !Text.holds ['\t', '#'] value &&
    match Yaml.Scalar.resolve value with
    | .ok (.string text) => text = value
    | _ => false

theorem isPlainSafe_iff {value : Text} : isPlainSafe value ↔ IsPlainSafe value := by
  simp only [isPlainSafe, Bool.and_eq_true, Bool.not_eq_true']
  constructor
  · rintro ⟨⟨noColon, noComment⟩, resolves⟩
    refine ⟨noColon, noComment, ?_⟩
    split at resolves
    · next text read => rw [read, of_decide_eq_true resolves]
    · cases resolves
  · rintro ⟨noColon, noComment, resolves⟩
    rw [resolves]
    exact ⟨⟨noColon, noComment⟩, decide_eq_true rfl⟩

instance (value : Text) : Decidable (IsFaithful value) :=
  decidable_of_iff
    ((∀ c ∈ value, Yaml.isAllowed c ∧ isBreak c = false) ∧
      (needsQuotes value = false → isPlainSafe value))
    ⟨fun ⟨onOneLine, plain⟩ => ⟨onOneLine, fun bare => isPlainSafe_iff.mp (plain bare)⟩,
      fun faithful => ⟨faithful.onOneLine, fun bare => isPlainSafe_iff.mpr (faithful.plain bare)⟩⟩

theorem not_isPrefixOf_of_holds_eq_false {piece value : Text}
    (absent : Text.holds piece value = false) : piece.isPrefixOf value = false := by
  cases value with
  | nil => cases piece <;> simp_all [Text.holds]
  | cons c rest =>
    simp only [Text.holds, Bool.or_eq_false_iff] at absent
    exact absent.1

theorem holds_tail_eq_false {piece : Text} {c : Char} {rest : Text}
    (absent : Text.holds piece (c :: rest) = false) : Text.holds piece rest = false := by
  simp only [Text.holds, Bool.or_eq_false_iff] at absent
  exact absent.2

/-- Without the pairs that end a plain scalar or start a comment a line goes on as one. -/
theorem continues_of_holds {value : Text} (unbroken : ∀ c ∈ value, isBreak c = false)
    (colon : ∀ c, isSpace c → Text.holds [':', c] value = false)
    (comment : ∀ c, isSpace c → Text.holds [c, '#'] value = false)
    (last : value.getLast? ≠ some ':') :
    ∀ {afterGap : Bool}, (afterGap → value.head? ≠ some '#') → Continues afterGap value := by
  induction value with
  | nil => intro afterGap _; trivial
  | cons c rest ih =>
    intro afterGap first
    have later : rest.getLast? ≠ some ':' := by
      intro ends
      cases rest with
      | nil => cases ends
      | cons d rest => exact last (by simpa using ends)
    refine ⟨unbroken c List.mem_cons_self, ?_, ?_, ?_⟩
    · rintro rfl
      cases rest with
      | nil => exact absurd rfl last
      | cons d rest =>
        have solid : isSpace d = false := by
          by_contra space
          have absent := not_isPrefixOf_of_holds_eq_false (colon d (by simpa using space))
          simp at absent
        have line : isBreak d = false := unbroken d (by simp)
        simp only [atSeparator, isSeparator, solid, line, Bool.or_self]
    · rintro rfl
      cases afterGap with
      | false => rfl
      | true => exact absurd rfl (first rfl)
    · refine ih (fun d member => unbroken d (List.mem_cons_of_mem c member))
        (fun d space => holds_tail_eq_false (colon d space))
        (fun d space => holds_tail_eq_false (comment d space)) later ?_
      intro space isHash
      have absent := not_isPrefixOf_of_holds_eq_false (comment c space)
      cases rest with
      | nil => cases isHash
      | cons d rest =>
        cases isHash
        simp at absent

theorem isSpace_eq_true_iff {c : Char} : isSpace c ↔ c = ' ' ∨ c = '\t' := by
  simp only [isSpace, Bool.or_eq_true, decide_eq_true_eq]

theorem isBlank_of_isSpace {c : Char} (space : isSpace c) : Text.isBlank c := by
  obtain rfl | rfl := isSpace_eq_true_iff.mp space <;> decide

theorem isSeparator_eq_false_of_not_blank {c : Char} (solid : Text.isBlank c = false)
    (unbroken : isBreak c = false) : isSeparator c = false := by
  have space : isSpace c = false := by
    by_contra space
    exact absurd (isBlank_of_isSpace (by simpa using space)) (by simp [solid])
  simp only [isSeparator, space, unbroken, Bool.or_self]

namespace IsFaithful

variable {value : Text}

/-- A string that needs no quotes and is safe without them is a plain scalar. -/
theorem isPlain (faithful : IsFaithful value) (bare : needsQuotes value = false) :
    IsPlain value := by
  have safe := faithful.plain bare
  have unbroken : ∀ c ∈ value, isBreak c = false := fun c member =>
    (faithful.onOneLine c member).2
  simp only [needsQuotes, Bool.or_eq_false_iff, decide_eq_false_iff_not, not_not, ne_eq] at bare
  obtain ⟨⟨⟨⟨⟨⟨⟨nonempty, trimmed⟩, indicator⟩, colon⟩, comment⟩, last⟩, -⟩, -⟩ := bare
  constructor
  case continues =>
    refine continues_of_holds unbroken ?_ ?_ last nofun
    · intro c space
      obtain rfl | rfl := isSpace_eq_true_iff.mp space
      · exact colon
      · exact safe.noColon
    · intro c space
      obtain rfl | rfl := isSpace_eq_true_iff.mp space
      · exact comment
      · exact safe.noComment
  case endsSolid =>
    intro c ends
    have solid : Text.isBlank c = false := by
      rw [← trimmed] at ends
      exact Text.isBlank_getLast_trim ends
    by_contra space
    exact absurd (isBlank_of_isSpace (by simpa using space)) (by simp [solid])
  case starts =>
    cases value with
    | nil => exact absurd nonempty (by decide)
    | cons c rest =>
      have solid : Text.isBlank c = false := Text.isBlank_head_trim trimmed
      exact ⟨c, rest, rfl,
        isSeparator_eq_false_of_not_blank solid (unbroken c List.mem_cons_self), .inl indicator⟩

end IsFaithful

end PlaybookRepair.InlineValue
