import Mathlib.Tactic.Common
import PlaybookRepair.Proofs.Text.Lines
import PlaybookRepair.Toml.QuotedString

/-!
# Quoted strings read back

A text that is written as a quoted string is read back as it was, whatever characters it holds, and
the reader stops behind the closing delimiter unless a further quote follows it (`read?_write`).
Each style is followed along the text. Between triple quotes a quote is read as part of the text as
long as the two characters behind it are not quotes as well, so the quotes in a row are taken
together with what follows them.
-/

namespace PlaybookRepair.Toml.QuotedString

variable {c quote : Char} {text rest : Text}

theorem startingWith_ok (c : Char) (text rest : Text) :
    startingWith c (.ok (text, rest)) = .ok (c :: text, rest) := rfl

/-! ## Escapes -/

theorem isVisible_of_ge (large : 0x80 ≤ c.toNat) : isVisible c := by
  simp only [isVisible, Bool.or_eq_true, Bool.and_eq_true, decide_eq_true_eq]
  exact .inr ⟨by omega, by omega⟩

/-- The digits of a code point that has no letter of its own are those of an escape. -/
theorem codePoint_codePointDigits : ∀ code < 0x80, (codePointDigits code).length = 4 ∧
    codePoint (codePointDigits code) = .ok (Char.ofNat code) := by
  decide +kernel

/-- Between double quotes a character is written by a letter, as it is, or by its code point. -/
theorem escapedChar_cases (c : Char) :
    (∃ letter ∈ ['b', 't', 'n', 'f', 'r', '"', '\\'], escapedChar c = ['\\', letter] ∧
      escaped letter = .ok c) ∨
    (escapedChar c = [c] ∧ isVisible c ∧ c ≠ '"' ∧ c ≠ '\\') ∨
    ∃ first second third fourth, escapedChar c = ['\\', 'u', first, second, third, fourth] ∧
      codePoint [first, second, third, fourth] = .ok c := by
  unfold escapedChar
  split
  case h_8 =>
    split_ifs with visible
    · exact .inr (.inl ⟨rfl, visible, ‹_›, ‹_›⟩)
    · have small : c.toNat < 0x80 := by
        by_contra large
        exact visible (isVisible_of_ge (by omega))
      obtain ⟨width, reads⟩ := codePoint_codePointDigits c.toNat small
      rw [Char.ofNat_toNat] at reads
      obtain ⟨first, second, third, fourth, digits⟩ := List.length_eq_four.mp width
      rw [digits] at reads ⊢
      exact .inr (.inr ⟨first, second, third, fourth, rfl, reads⟩)
  all_goals exact .inl ⟨_, by decide, rfl, rfl⟩

/-! ## On one line -/

theorem basicFrom_visible (visible : isVisible c) (noQuote : c ≠ '"') (noBackslash : c ≠ '\\') :
    basicFrom (c :: rest) = startingWith c (basicFrom rest) := by
  rw [basicFrom.eq_def]
  split <;> simp_all

theorem basicFrom_escapedChar (c : Char) (rest : Text) :
    basicFrom (escapedChar c ++ rest) = startingWith c (basicFrom rest) := by
  obtain ⟨letter, known, shown, reads⟩ | ⟨shown, visible, noQuote, noBackslash⟩ |
    ⟨_, _, _, _, shown, reads⟩ := escapedChar_cases c
  · have steps : basicFrom ('\\' :: letter :: rest) =
        (do startingWith (← escaped letter) (basicFrom rest)) := by
      simp only [List.mem_cons, List.not_mem_nil, or_false] at known
      obtain rfl | rfl | rfl | rfl | rfl | rfl | rfl := known <;> rfl
    rw [shown, List.cons_append, List.cons_append, List.nil_append, steps, reads]
    rfl
  · rw [shown]
    exact basicFrom_visible visible noQuote noBackslash
  · rw [shown]
    change (do startingWith (← codePoint _) (basicFrom rest)) = _
    rw [reads]
    rfl

theorem basicFrom_body (text rest : Text) :
    basicFrom (text.flatMap escapedChar ++ '"' :: rest) = .ok (text, rest) := by
  induction text with
  | nil => rfl
  | cons c text ih =>
    rw [List.flatMap_cons, List.append_assoc, basicFrom_escapedChar, ih, startingWith_ok]

theorem literalFrom_body (fit : fits text .literal) (rest : Text) :
    literalFrom (text ++ '\'' :: rest) = .ok (text, rest) := by
  induction text with
  | nil => rfl
  | cons c text ih =>
    simp only [fits, List.all_cons, Bool.and_eq_true, decide_eq_true_eq] at fit ih
    obtain ⟨⟨visible, noQuote⟩, later⟩ := fit
    rw [List.cons_append, literalFrom, if_pos visible, ih later, startingWith_ok]
    exact noQuote

/-! ## Runs of quotes -/

theorem le_longestRun (quote : Char) (run : Nat) (text : Text) :
    run ≤ longestRun quote run text := by
  induction text generalizing run with
  | nil => exact Nat.le_refl run
  | cons c text ih =>
    rw [longestRun]
    split_ifs
    · exact Nat.le_of_succ_le (ih (run + 1))
    · exact Nat.le_max_left ..

theorem longestRun_le_succ (quote : Char) (run : Nat) (text : Text) :
    longestRun quote run text ≤ longestRun quote (run + 1) text := by
  induction text generalizing run with
  | nil => exact Nat.le_succ run
  | cons c text ih =>
    simp only [longestRun]
    split_ifs
    · exact ih (run + 1)
    · omega

theorem longestRun_le_cons (quote c : Char) (text : Text) :
    longestRun quote 0 text ≤ longestRun quote 0 (c :: text) := by
  rw [longestRun]
  split_ifs
  · exact longestRun_le_succ quote 0 text
  · exact Nat.le_max_right ..

/-- Where a text does not consist of quotes alone, its next three characters are not all quotes. -/
theorem not_isPrefix_of_longestRun (few : longestRun quote 0 text ≤ 2)
    (mixed : ∀ quotes ≤ 2, text ≠ List.replicate quotes quote) (rest : Text) :
    ¬ [quote, quote, quote] <+: text ++ rest := by
  match text, few with
  | [], _ => exact absurd rfl (mixed 0 (by omega))
  | [first], _ =>
    have other : first ≠ quote := by simpa using mixed 1 (by omega)
    simp [List.cons_prefix_cons, other.symm]
  | [first, second], _ =>
    have other := mixed 2 (by omega)
    simp only [List.cons_append, List.cons_prefix_cons]
    rintro ⟨rfl, rfl, -⟩
    exact other rfl
  | first :: second :: third :: later, few =>
    simp only [List.cons_append, List.cons_prefix_cons]
    rintro ⟨rfl, rfl, rfl, -⟩
    have many := le_longestRun quote (0 + 1 + 1 + 1) later
    simp only [longestRun, if_true] at few
    omega

/-! ## On several lines -/

theorem literalLinesFrom_closing {quotes : Nat} (few : quotes ≤ 2)
    (noQuote : rest.head? ≠ some '\'') :
    literalLinesFrom (List.replicate quotes '\'' ++ '\'' :: '\'' :: '\'' :: rest) =
      .ok (List.replicate quotes '\'', rest) := by
  match quotes, few with
  | 0, _ =>
    rw [literalLinesFrom.eq_def]
    split <;> grind
  | 1, _ =>
    rw [literalLinesFrom.eq_def]
    split <;> grind
  | 2, _ => rfl

theorem literalLinesFrom_cons (stands : isVisible c || c = '\n')
    (unclosed : ¬ ['\'', '\'', '\''] <+: c :: rest) :
    literalLinesFrom (c :: rest) = startingWith c (literalLinesFrom rest) := by
  have noReturn : c ≠ '\r' := by
    rintro rfl
    exact absurd stands (by decide)
  rw [literalLinesFrom.eq_def]
  split <;> grind

theorem literalLinesFrom_body (fit : fits text .literalLines) (noQuote : rest.head? ≠ some '\'') :
    literalLinesFrom (text ++ '\'' :: '\'' :: '\'' :: rest) = .ok (text, rest) := by
  induction text with
  | nil => exact literalLinesFrom_closing (Nat.zero_le 2) noQuote
  | cons c text ih =>
    by_cases mixed : ∀ quotes ≤ 2, c :: text ≠ List.replicate quotes '\''
    · simp only [fits, List.all_cons, Bool.and_eq_true, decide_eq_true_eq] at fit ih
      obtain ⟨⟨stands, later⟩, few⟩ := fit
      have unclosed := not_isPrefix_of_longestRun few mixed ('\'' :: '\'' :: '\'' :: rest)
      rw [List.cons_append] at unclosed ⊢
      rw [literalLinesFrom_cons stands unclosed,
        ih ⟨later, (longestRun_le_cons _ c text).trans few⟩, startingWith_ok]
    · push Not at mixed
      obtain ⟨quotes, few, quoted⟩ := mixed
      rw [quoted]
      exact literalLinesFrom_closing few noQuote

theorem basicLinesFrom_closing {quotes : Nat} (few : quotes ≤ 2) (noQuote : rest.head? ≠ some '"') :
    basicLinesFrom false (List.replicate quotes '"' ++ '"' :: '"' :: '"' :: rest) =
      .ok (List.replicate quotes '"', rest) := by
  match quotes, few with
  | 0, _ =>
    rw [basicLinesFrom.eq_def]
    split <;> grind
  | 1, _ =>
    rw [basicLinesFrom.eq_def]
    split <;> grind
  | 2, _ => rfl

theorem basicLinesFrom_cons (stands : isVisible c || c = '\n') (noBackslash : c ≠ '\\')
    (unclosed : ¬ ['"', '"', '"'] <+: c :: rest) :
    basicLinesFrom false (c :: rest) = startingWith c (basicLinesFrom false rest) := by
  have noReturn : c ≠ '\r' := by
    rintro rfl
    exact absurd stands (by decide)
  rw [basicLinesFrom.eq_def]
  split <;> grind

theorem basicLinesFrom_escapedChar (c : Char) (rest : Text) :
    basicLinesFrom false (escapedChar c ++ rest) = startingWith c (basicLinesFrom false rest) := by
  obtain ⟨letter, known, shown, reads⟩ | ⟨shown, visible, noQuote, noBackslash⟩ |
    ⟨_, _, _, _, shown, reads⟩ := escapedChar_cases c
  · have steps : basicLinesFrom false ('\\' :: letter :: rest) =
        (do startingWith (← escaped letter) (basicLinesFrom false rest)) := by
      simp only [List.mem_cons, List.not_mem_nil, or_false] at known
      obtain rfl | rfl | rfl | rfl | rfl | rfl | rfl := known <;> rfl
    rw [shown, List.cons_append, List.cons_append, List.nil_append, steps, reads]
    rfl
  · rw [shown]
    refine basicLinesFrom_cons ?_ noBackslash ?_
    · rw [visible, Bool.true_or]
    · simp [List.cons_prefix_cons, noQuote.symm]
  · rw [shown]
    change (do startingWith (← codePoint _) (basicLinesFrom false rest)) = _
    rw [reads]
    rfl

theorem escapedLines_quote {quotes : Nat} (few : quotes < 2) (text : Text) :
    escapedLines quotes ('"' :: text) = '"' :: escapedLines (quotes + 1) text := by
  rw [escapedLines, if_pos few]

theorem escapedLines_escape {quotes : Nat} (many : 2 ≤ quotes) (text : Text) :
    escapedLines quotes ('"' :: text) = escapedChar '"' ++ escapedLines 0 text := by
  rw [escapedLines, if_neg (by omega)]
  rfl

theorem escapedLines_other (noQuote : c ≠ '"') (noFeed : c ≠ '\n') (quotes : Nat) (text : Text) :
    escapedLines quotes (c :: text) = escapedChar c ++ escapedLines 0 text := by
  rw [escapedLines.eq_def]
  split <;> simp_all

theorem head?_escapedChar (c : Char) (rest : Text) :
    (escapedChar c ++ rest).head? ≠ some '"' := by
  obtain ⟨_, -, shown, -⟩ | ⟨shown, -, noQuote, -⟩ | ⟨_, _, _, _, shown, -⟩ := escapedChar_cases c
  · simp [shown]
  · simp [shown, noQuote]
  · simp [shown]

/-- Behind two quotes no text starts with a quote. -/
theorem head?_escapedLines {quotes : Nat} (other : 2 ≤ quotes ∨ c ≠ '"') (text rest : Text) :
    (escapedLines quotes (c :: text) ++ rest).head? ≠ some '"' := by
  by_cases quote : c = '"'
  · subst quote
    rw [escapedLines_escape (other.resolve_right (· rfl)), List.append_assoc]
    exact head?_escapedChar '"' _
  · by_cases feed : c = '\n'
    · subst feed
      change some '\n' ≠ some '"'
      decide
    · rw [escapedLines_other quote feed, List.append_assoc]
      exact head?_escapedChar c _

theorem not_isPrefix_of_head? {later : Text} (other : text.head? ≠ some quote) :
    ¬ quote :: later <+: text := by
  rintro ⟨_, rfl⟩
  exact other rfl

/-- A quote that the text starts with does not close it. -/
theorem basicLinesFrom_quote {quotes : Nat} (text : Text) (noQuote : rest.head? ≠ some '"')
    (reads : basicLinesFrom false (escapedLines (quotes + 1) text ++ '"' :: '"' :: '"' :: rest) =
      .ok (text, rest)) :
    basicLinesFrom false ('"' :: (escapedLines (quotes + 1) text ++ '"' :: '"' :: '"' :: rest)) =
      .ok ('"' :: text, rest) := by
  -- Unless a quote and the end follow, one of the next two characters is no quote.
  have unclosed : text = [] ∨ text = ['"'] ∧ quotes = 0 ∨ ¬ ['"', '"', '"'] <+:
      '"' :: (escapedLines (quotes + 1) text ++ '"' :: '"' :: '"' :: rest) := by
    simp only [List.cons_prefix_cons, true_and]
    match text with
    | [] => exact .inl rfl
    | first :: later =>
      by_cases other : 2 ≤ quotes + 1 ∨ first ≠ '"'
      · exact .inr (.inr (not_isPrefix_of_head? (head?_escapedLines other later _)))
      · obtain ⟨rfl, rfl⟩ : quotes = 0 ∧ first = '"' := by
          push Not at other
          exact ⟨by omega, other.2⟩
        match later with
        | [] => exact .inr (.inl ⟨rfl, rfl⟩)
        | second :: later =>
          rw [escapedLines_quote (by decide), List.cons_append, List.cons_prefix_cons]
          exact .inr (.inr fun closes =>
            not_isPrefix_of_head? (head?_escapedLines (.inl (by decide)) later _) closes.2)
  obtain rfl | ⟨rfl, rfl⟩ | unclosed := unclosed
  · exact basicLinesFrom_closing (by decide : 1 ≤ 2) noQuote
  · exact basicLinesFrom_closing (by decide : 2 ≤ 2) noQuote
  · rw [basicLinesFrom_cons (by decide) (by decide) unclosed, reads, startingWith_ok]

theorem basicLinesFrom_body (text : Text) (quotes : Nat) (noQuote : rest.head? ≠ some '"') :
    basicLinesFrom false (escapedLines quotes text ++ '"' :: '"' :: '"' :: rest) =
      .ok (text, rest) := by
  induction text generalizing quotes with
  | nil => exact basicLinesFrom_closing (Nat.zero_le 2) noQuote
  | cons c text ih =>
    by_cases quote : c = '"'
    · subst quote
      by_cases few : quotes < 2
      · rw [escapedLines_quote few, List.cons_append]
        exact basicLinesFrom_quote text noQuote (ih (quotes + 1))
      · rw [escapedLines_escape (by omega), List.append_assoc, basicLinesFrom_escapedChar, ih,
          startingWith_ok]
    · by_cases feed : c = '\n'
      · subst feed
        have unclosed : ¬ ['"', '"', '"'] <+:
            '\n' :: (escapedLines 0 text ++ '"' :: '"' :: '"' :: rest) := by
          simp [List.cons_prefix_cons]
        rw [escapedLines, List.cons_append,
          basicLinesFrom_cons (by decide) (by decide) unclosed, ih, startingWith_ok]
      · rw [escapedLines_other quote feed, List.append_assoc, basicLinesFrom_escapedChar, ih,
          startingWith_ok]

/-! ## Any style -/

theorem fits_styleOf {style : StringStyle} (styled : styleOf text = style) :
    fits text style ∨ style = .basic ∨ style = .basicLines := by
  unfold styleOf at styled
  cases found : styles.find? (fits text) with
  | none =>
    rw [found, Option.getD_none] at styled
    split_ifs at styled
    · exact .inr (.inr styled.symm)
    · exact .inr (.inl styled.symm)
  | some first =>
    rw [found, Option.getD_some] at styled
    exact .inl (styled ▸ List.find?_some found)

theorem withoutFirstBreak_visible (visible : isVisible c) (rest : Text) :
    withoutFirstBreak (c :: rest) = c :: rest := by
  unfold withoutFirstBreak
  split <;> simp_all [show isVisible '\n' = false from rfl, show isVisible '\r' = false from rfl]

theorem escapedChar_eq_cons (c : Char) : ∃ first later, escapedChar c = first :: later ∧
    isVisible first := by
  obtain ⟨_, -, shown, -⟩ | ⟨shown, visible, -⟩ | ⟨_, _, _, _, shown, -⟩ := escapedChar_cases c
  · exact ⟨_, _, shown, rfl⟩
  · exact ⟨_, _, shown, visible⟩
  · exact ⟨_, _, shown, rfl⟩

theorem body_eq_cons {style : StringStyle} (styled : styleOf (c :: text) = style)
    (onLines : style = .basicLines ∨ style = .literalLines) (noFeed : c ≠ '\n') :
    ∃ first later, body (c :: text) style = first :: later ∧ isVisible first := by
  obtain rfl | rfl := onLines
  · by_cases quote : c = '"'
    · subst quote
      exact ⟨_, _, escapedLines_quote (by decide) text, rfl⟩
    · obtain ⟨first, later, shown, visible⟩ := escapedChar_eq_cons c
      refine ⟨first, later ++ escapedLines 0 text, ?_, visible⟩
      rw [body, escapedLines_other quote noFeed, shown, List.cons_append]
  · have fit : fits (c :: text) .literalLines := by simpa using fits_styleOf styled
    simp only [fits, List.all_cons, Bool.and_eq_true, Bool.or_eq_true, decide_eq_true_eq] at fit
    exact ⟨c, text, rfl, fit.1.1.resolve_right noFeed⟩

/-- Only a text with several lines starts with a line end, which would be lost. -/
theorem withoutFirstBreak_body {style : StringStyle} (styled : styleOf text = style)
    (onLines : style = .basicLines ∨ style = .literalLines) (visible : isVisible quote)
    (rest : Text) :
    withoutFirstBreak ((if startsLine text style then ['\n'] else []) ++
      (body text style ++ quote :: rest)) = body text style ++ quote :: rest := by
  have starts : startsLine text style = text.contains '\n' := by obtain rfl | rfl := onLines <;> rfl
  rw [starts]
  split_ifs with feed
  · rfl
  · rw [List.nil_append]
    match text with
    | [] =>
      have empty : body [] style = [] := by obtain rfl | rfl := onLines <;> rfl
      rw [empty, List.nil_append, withoutFirstBreak_visible visible]
    | c :: text =>
      have noFeed : c ≠ '\n' := by
        rintro rfl
        exact feed rfl
      obtain ⟨first, later, shown, visible⟩ := body_eq_cons styled onLines noFeed
      rw [shown, List.cons_append, withoutFirstBreak_visible visible]

theorem read?_basic (unclosed : ¬ ['"', '"'] <+: rest) :
    read? ('"' :: rest) = some (basicFrom rest) := by
  rw [read?.eq_def]
  split <;> grind

theorem read?_literal (unclosed : ¬ ['\'', '\''] <+: rest) :
    read? ('\'' :: rest) = some (literalFrom rest) := by
  rw [read?.eq_def]
  split <;> grind

theorem write_eq {style : StringStyle} (styled : styleOf text = style) (rest : Text) :
    write text ++ rest = delimiter style ++ ((if startsLine text style then ['\n'] else []) ++
      (body text style ++ (delimiter style ++ rest))) := by
  subst styled
  simp only [write, List.append_assoc]

/-- A text that is written as a quoted string is read back as it was. -/
theorem read?_write (text : Text) (noQuote : ∀ quote ∈ ['"', '\''], rest.head? ≠ some quote) :
    read? (write text ++ rest) = some (.ok (text, rest)) := by
  simp only [List.mem_cons, List.not_mem_nil, or_false, forall_eq_or_imp, forall_eq] at noQuote
  cases styled : styleOf text with
  | basic =>
    rw [write_eq styled]
    change read? ('"' :: (text.flatMap escapedChar ++ '"' :: rest)) = _
    rw [read?_basic, basicFrom_body]
    match text with
    | [] => simpa [List.cons_prefix_cons] using not_isPrefix_of_head? noQuote.1
    | c :: text =>
      rw [List.flatMap_cons, List.append_assoc]
      exact not_isPrefix_of_head? (head?_escapedChar c _)
  | literal =>
    have fit : fits text .literal := by simpa using fits_styleOf styled
    rw [write_eq styled]
    change read? ('\'' :: (text ++ '\'' :: rest)) = _
    rw [read?_literal, literalFrom_body fit]
    match text with
    | [] => simpa [List.cons_prefix_cons] using not_isPrefix_of_head? noQuote.2
    | c :: text =>
      have other : c ≠ '\'' := by simp_all [fits]
      simp [List.cons_prefix_cons, other.symm]
  | basicLines =>
    rw [write_eq styled]
    change some (basicLinesFrom false
      (withoutFirstBreak (_ ++ (_ ++ '"' :: '"' :: '"' :: rest)))) = _
    rw [withoutFirstBreak_body styled (.inl rfl) rfl]
    exact congrArg some (basicLinesFrom_body text 0 noQuote.1)
  | literalLines =>
    have fit : fits text .literalLines := by simpa using fits_styleOf styled
    rw [write_eq styled]
    change some (literalLinesFrom
      (withoutFirstBreak (_ ++ (_ ++ '\'' :: '\'' :: '\'' :: rest)))) = _
    rw [withoutFirstBreak_body styled (.inr rfl) rfl]
    exact congrArg some (literalLinesFrom_body fit noQuote.2)

end PlaybookRepair.Toml.QuotedString
