import Mathlib.Tactic.Common
import PlaybookRepair.Proofs.Yaml.Scalar

/-!
# Quoted scalars on one line

What is read from a text on one line is the same wherever the text stands, whatever follows it.
`IsLocal` says so for one result of a reader; a quoted scalar is such a result, unless a further quote
follows the closing one.
-/

namespace PlaybookRepair.Yaml

section IsLocal

variable {ι α β : Type} {least : ι → Nat} {follows : Text → Prop}
  {read other : ι → Text → Mark → Except SyntaxError (α × Cursor)}
  {text first rest after : Text} {mark : Mark} {found : α} {cursor : Cursor}

/-- The reader takes a part of the text, up to the cursor, and finds the same in it at every place
that is right of the least column, if the text behind it is one that may follow. -/
def IsLocal (least : ι → Nat) (follows : Text → Prop)
    (read : ι → Text → Mark → Except SyntaxError (α × Cursor)) (text : Text) (mark : Mark)
    (found : α) (cursor : Cursor) : Prop :=
  ∃ taken, text = taken ++ cursor.rest ∧ cursor.mark = mark.advance taken.length ∧
    ∀ (place : ι) (mark : Mark) (after : Text), least place ≤ mark.column → follows after →
      read place (text ++ after) mark =
        .ok (found, ⟨cursor.rest ++ after, mark.advance taken.length⟩)

/-- The reading goes on behind the first part of the text. -/
theorem IsLocal.append (transform : α → β)
    {read : ι → Text → Mark → Except SyntaxError (β × Cursor)}
    (later : IsLocal least follows other rest (mark.advance first.length) found cursor)
    (reads : ∀ place mark after, least place ≤ mark.column → follows after →
      ∃ site, least site ≤ mark.column + first.length ∧
        read place (first ++ (rest ++ after)) mark =
          (other site (rest ++ after) (mark.advance first.length)).map fun result =>
            (transform result.1, result.2)) :
    IsLocal least follows read (first ++ rest) mark (transform found) cursor := by
  obtain ⟨taken, rfl, place, same⟩ := later
  refine ⟨first ++ taken, by rw [List.append_assoc], ?_, fun place mark after right ends => ?_⟩
  · rw [place, Mark.advance_advance, List.length_append]
  · obtain ⟨site, further, step⟩ := reads place mark after right ends
    rw [List.append_assoc first, step, same site _ after further ends, Mark.advance_advance,
      ← List.length_append]
    rfl

/-- The reading goes on behind the first character of the text. -/
theorem IsLocal.cons (transform : α → β) {c : Char}
    {read : ι → Text → Mark → Except SyntaxError (β × Cursor)}
    (later : IsLocal least follows other rest (mark.advance 1) found cursor)
    (reads : ∀ place mark after, least place ≤ mark.column → follows after →
      read place (c :: (rest ++ after)) mark =
        (other place (rest ++ after) (mark.advance 1)).map fun result =>
          (transform result.1, result.2)) :
    IsLocal least follows read (c :: rest) mark (transform found) cursor := by
  have whole : IsLocal least follows read ([c] ++ rest) mark (transform found) cursor :=
    IsLocal.append transform later fun place mark after right ends =>
      ⟨place, Nat.le_add_right_of_le right, reads place mark after right ends⟩
  exact whole

/-- The reading goes on behind the first character of the text, which only changes the place. -/
theorem IsLocal.skip {c : Char}
    (later : IsLocal least follows other rest (mark.advance 1) found cursor)
    (reads : ∀ place mark after, least place ≤ mark.column → follows after →
      ∃ site, least site ≤ mark.column + 1 ∧
        read place (c :: (rest ++ after)) mark = other site (rest ++ after) (mark.advance 1)) :
    IsLocal least follows read (c :: rest) mark found cursor := by
  have whole : IsLocal least follows read ([c] ++ rest) mark (id found) cursor := by
    refine IsLocal.append id later fun place mark after right ends => ?_
    obtain ⟨site, further, step⟩ := reads place mark after right ends
    refine ⟨site, further, step.trans ?_⟩
    cases other site (rest ++ after) (mark.advance 1) <;> rfl
  exact whole

end IsLocal

theorem exists_of_bind_eq_ok {ε α β : Type} {x : Except ε α} {f : α → Except ε β} {result : β}
    (done : x >>= f = .ok result) : ∃ found, x = .ok found ∧ f found = .ok result := by
  cases x with
  | error error => cases done
  | ok found => exact ⟨found, rfl, done⟩

/-! ## Quoted scalars -/

namespace QuotedScalar

variable {quote c : Char} {start mark : Mark} {gap : Gap} {rest : Text}

/-- A single quote is written twice between single quotes. -/
theorem readFrom_doubled (inside : 0 < mark.column) :
    readFrom '\'' start (.text gap) ('\'' :: '\'' :: rest) mark =
      (readFrom '\'' start (.text .empty) rest (mark.advance 2)).map fun read =>
        (gap.text ++ '\'' :: read.1, read.2) := by
  have column : ¬mark.column = 0 := by omega
  rw [readFrom_cons (by decide)]
  simp only [column, decide_false, Bool.false_and, Bool.false_eq_true, ↓reduceIte,
    (by decide : isSpace '\'' = false)]
  cases readFrom '\'' start (.text .empty) rest (mark.advance 2) <;> rfl

/-- The closing quote. -/
theorem readFrom_end (unbroken : isBreak quote = false) (solid : isSpace quote = false)
    (inside : 0 < mark.column) (single : quote = '\'' → rest.head? ≠ some '\'') :
    readFrom quote start (.text gap) (quote :: rest) mark = .ok (gap.text, ⟨rest, mark.advance 1⟩) := by
  have column : ¬mark.column = 0 := by omega
  rw [readFrom_cons unbroken]
  simp only [column, solid, decide_false, Bool.false_and, Bool.false_eq_true, ↓reduceIte]
  split
  next rest => exact absurd rfl (single rfl)
  · rfl

/-- The backslash of an escape. -/
theorem readFrom_backslash (inside : 0 < mark.column) :
    readFrom '"' start (.text gap) ('\\' :: rest) mark =
      (readFrom '"' start (.escape mark) rest (mark.advance 1)).map fun read =>
        (gap.text ++ read.1, read.2) := by
  have column : ¬mark.column = 0 := by omega
  rw [readFrom_cons (by decide)]
  simp only [column, decide_false, Bool.false_and, Bool.false_eq_true, ↓reduceIte,
    (by decide : isSpace '\\' = false), (by decide : ¬ '\\' = '"'), decide_true, Bool.and_self]
  cases readFrom '"' start (.escape mark) rest (mark.advance 1) <;> rfl

/-- The letter of an escape that gives a code point. -/
theorem readFrom_codePointSign {backslash : Mark} {count : Nat} (unbroken : isBreak c = false)
    (unknown : escapes.lookup c = none) (counts : codePointDigits? c = some count) :
    readFrom quote start (.escape backslash) (c :: rest) mark =
      readFrom quote start (.codePoint count 0 (mark.advance 1)) rest (mark.advance 1) := by
  rw [readFrom.eq_def]
  split
  case h_5 same => exact absurd (List.cons.inj same).1 (ne_carriageReturn_of_not_break unbroken)
  case h_6 sameState sameText =>
    cases sameState
    cases sameText
    simp only [unbroken, unknown, counts, Bool.false_eq_true, ↓reduceIte]
  all_goals simp_all

theorem readFrom_digit {missing value digit : Nat} {digits : Mark}
    (known : Numeral.digitValue? 16 c = some digit) (more : missing > 1) :
    readFrom quote start (.codePoint missing value digits) (c :: rest) mark =
      readFrom quote start (.codePoint (missing - 1) (value * 16 + digit) digits) rest
        (mark.advance 1) := by
  rw [readFrom]
  simp only [known, more, ↓reduceIte]

/-- The last digit of a code point. -/
theorem readFrom_lastDigit {missing value digit : Nat} {digits : Mark}
    (known : Numeral.digitValue? 16 c = some digit) (last : ¬missing > 1)
    (codePoint : isCodePoint (value * 16 + digit)) :
    readFrom quote start (.codePoint missing value digits) (c :: rest) mark =
      (readFrom quote start (.text .empty) rest (mark.advance 1)).map fun read =>
        (Char.ofNat (value * 16 + digit) :: read.1, read.2) := by
  rw [readFrom]
  simp only [known, last, codePoint, ↓reduceIte]
  cases readFrom quote start (.text .empty) rest (mark.advance 1) <;> rfl

/-- A state with other marks, which only messages mention. -/
def State.at (mark : Mark) : State → State
  | .text gap => .text gap
  | .escape _ => .escape mark
  | .codePoint missing value _ => .codePoint missing value mark

/-- What is read between quotes on one line does not depend on the place, and nothing but a further
quote behind it matters. -/
theorem readFrom_isLocal {quote : Char} {start mark : Mark} {state : State} {text value : Text}
    {cursor : Cursor} (unbroken : ∀ c ∈ text, isBreak c = false) (inside : 0 < mark.column)
    (read : readFrom quote start state text mark = .ok (value, cursor)) :
    IsLocal (fun _ => 1) (fun after => after.head? ≠ some quote)
      (fun (marks : Mark × Mark) => readFrom quote marks.1 (state.at marks.2)) text mark value
      cursor := by
  fun_induction readFrom quote start state text mark generalizing value cursor
  case case1 | case5 | case10 | case15 | case16 | case17 | case20 => cases read
  case case2 | case11 => exact absurd (unbroken '\r' List.mem_cons_self) (by decide)
  case case3 broken _ | case12 broken _ =>
    exact absurd broken (by simp [unbroken _ List.mem_cons_self])
  case case4 gap c rest mark _ _ space ih =>
    have line := unbroken c List.mem_cons_self
    have later := ih (fun d member => unbroken d (List.mem_cons_of_mem c member))
      (Nat.succ_pos _) read
    exact later.skip fun marks mark after _ _ =>
      ⟨marks, Nat.le_add_left 1 _, readFrom_space line space⟩
  case case6 gap mark rest isQuote _ _ _ _ ih =>
    subst isQuote
    obtain ⟨result, sub, same⟩ := exists_of_bind_eq_ok read
    cases same
    have later := ih (fun d member => unbroken d (by simp [member])) (by simp) sub
    change IsLocal _ _ _ (['\'', '\''] ++ rest) _ _ _
    exact IsLocal.append (gap.text ++ '\'' :: ·) later fun marks mark after inside _ =>
      ⟨marks, Nat.le_add_right_of_le inside, readFrom_doubled inside⟩
  case case7 gap mark rest single line solid _ _ =>
    cases read
    refine ⟨[quote], rfl, rfl, fun marks mark after inside ends => ?_⟩
    exact readFrom_end (by simpa using line) (by simpa using solid) inside fun same head => by
      cases rest with
      | nil => exact ends (same ▸ head)
      | cons d rest =>
        cases head
        exact single rest same rfl
  case case8 gap c rest mark _ line solid _ other literal ih =>
    obtain ⟨result, sub, same⟩ := exists_of_bind_eq_ok read
    cases same
    obtain ⟨rfl, rfl⟩ : quote = '"' ∧ c = '\\' := by simpa using literal
    have later := ih (fun d member => unbroken d (List.mem_cons_of_mem _ member))
      (Nat.succ_pos _) sub
    change IsLocal _ _ _ (['\\'] ++ rest) _ _ _
    exact IsLocal.append (gap.text ++ ·) later fun marks mark after inside _ =>
      ⟨(marks.1, mark), Nat.le_add_left 1 _, readFrom_backslash inside⟩
  case case9 gap c rest mark _ line solid _ other literal ih =>
    obtain ⟨result, sub, same⟩ := exists_of_bind_eq_ok read
    cases same
    have later := ih (fun d member => unbroken d (List.mem_cons_of_mem c member))
      (Nat.succ_pos _) sub
    refine IsLocal.cons (gap.text ++ c :: ·) later fun marks mark after inside _ => ?_
    exact readFrom_char (by simpa using line) (by simpa using solid) inside other (by simpa using literal)
  case case13 c rest mark _ line escaped known ih =>
    obtain ⟨result, sub, same⟩ := exists_of_bind_eq_ok read
    cases same
    have later := ih (fun d member => unbroken d (List.mem_cons_of_mem c member))
      (Nat.succ_pos _) sub
    exact IsLocal.cons (escaped :: ·) later fun marks mark after _ _ =>
      readFrom_escape_cons (by simpa using line) known
  case case14 c rest mark _ line unknown count counts ih =>
    have later := ih (fun d member => unbroken d (List.mem_cons_of_mem c member))
      (Nat.succ_pos _) read
    exact later.skip fun marks mark after inside _ =>
      ⟨(marks.1, mark.advance 1), Nat.le_add_left 1 _,
        readFrom_codePointSign (by simpa using line) unknown counts⟩
  case case18 missing value digits c rest mark digit known value' more ih =>
    have later := ih (fun d member => unbroken d (List.mem_cons_of_mem c member))
      (Nat.succ_pos _) read
    exact later.skip fun marks mark after _ _ =>
      ⟨marks, Nat.le_add_left 1 _, readFrom_digit known more⟩
  case case19 missing value digits c rest mark digit known value' last codePoint ih =>
    obtain ⟨result, sub, same⟩ := exists_of_bind_eq_ok read
    cases same
    have later := ih (fun d member => unbroken d (List.mem_cons_of_mem c member))
      (Nat.succ_pos _) sub
    exact IsLocal.cons (Char.ofNat value' :: ·) later fun marks mark after _ _ =>
      readFrom_lastDigit known last codePoint

/-- A quoted scalar on one line is the same at every place. -/
theorem read_isLocal {quote : Char} {mark : Mark} {rest value : Text} {cursor : Cursor}
    (unbroken : ∀ c ∈ rest, isBreak c = false)
    (found : read quote ⟨quote :: rest, mark⟩ = .ok (value, cursor)) :
    IsLocal (fun _ => 0) (fun after => after.head? ≠ some quote)
      (fun (_ : Unit) text mark => read quote ⟨text, mark⟩) (quote :: rest) mark value cursor := by
  obtain ⟨taken, same, place, reads⟩ := readFrom_isLocal unbroken (Nat.succ_pos _) found
  refine ⟨quote :: taken, by rw [List.cons_append, ← same], ?_, fun _ mark after _ ends => ?_⟩
  · rw [place, Cursor.advance, Mark.advance_advance, List.length_cons, Nat.add_comm]
  · refine (reads (mark, mark) (mark.advance 1) after (Nat.succ_pos _) ends).trans ?_
    rw [Mark.advance_advance, List.length_cons, Nat.add_comm]

end QuotedScalar

end PlaybookRepair.Yaml
