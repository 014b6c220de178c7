import PlaybookRepair.Proofs.Yaml.Word

/-!
# Escapes in quoted scalars

Between quotes a character stands for itself, except that a single quote is written twice between
single quotes and that a backslash starts an escape between double quotes. A value in which neither
comes up is what stands between the quotes; any other has fewer characters that are not blank
(`readFrom_whole`). So a scalar without its quotes is its value exactly if nothing is escaped in it
(`Word.Spells.stripQuotes_eq_iff`), and trimming does not make up for an escape
(`Word.Spells.trim_stripQuotes_eq_iff`).
-/

namespace PlaybookRepair.Yaml

open InlineValue (insideQuotes? stripQuotes)
open PlainScalar (IsPlain)

/-- The sign of an escape between quotes of the given kind. -/
def escapeSign (quote : Char) : Char := if quote = '"' then '\\' else quote

/-- Whether something is escaped between the quotes of a scalar. -/
def HasEscapes : Text → Prop
  | [] => False
  | quote :: inside => (quote = '"' ∨ quote = '\'') ∧ escapeSign quote ∈ inside.dropLast

instance : DecidablePred HasEscapes
  | [] => .isFalse id
  | _ :: _ => inferInstanceAs (Decidable (_ ∧ _))

namespace QuotedScalar

variable {quote c : Char} {start mark : Mark} {cursor : Cursor} {text value raw shown : Text}

/-- The value goes on from what has been shown of it with the rest as it is written, or something is
escaped in the rest and the value has fewer characters that are not blank. -/
def Continues (quote : Char) (shown raw value : Text) : Prop :=
  value = shown ++ raw ∧ quote ∉ raw ∧ escapeSign quote ∉ raw ∨
    escapeSign quote ∈ raw ∧ value.solidCount < shown.solidCount + raw.solidCount

theorem Continues.solidCount_le (continues : Continues quote shown raw value) :
    value.solidCount ≤ shown.solidCount + raw.solidCount := by
  obtain ⟨same, -, -⟩ | ⟨-, fewer⟩ := continues
  · rw [same, Text.solidCount_append]
  · exact Nat.le_of_lt fewer

/-- What stands before a value is shown before it. -/
theorem Continues.prepend (continues : Continues quote shown raw value) (front : Text) :
    Continues quote (front ++ shown) raw (front ++ value) := by
  obtain ⟨same, literal⟩ | ⟨escaped, fewer⟩ := continues
  · exact .inl ⟨by rw [same, List.append_assoc], literal⟩
  · refine .inr ⟨escaped, ?_⟩
    simp only [Text.solidCount_append]
    omega

/-- A character that escapes nothing is shown as it is written. -/
theorem Continues.cons (continues : Continues quote (shown ++ [c]) raw value)
    (noQuote : quote ≠ c) (noSign : escapeSign quote ≠ c) :
    Continues quote shown (c :: raw) value := by
  obtain ⟨same, quotes, signs⟩ | ⟨escaped, fewer⟩ := continues
  · refine .inl ⟨by rw [same, List.append_assoc, List.singleton_append], ?_, ?_⟩
    · exact List.not_mem_cons_of_ne_of_not_mem noQuote quotes
    · exact List.not_mem_cons_of_ne_of_not_mem noSign signs
  · refine .inr ⟨List.mem_cons_of_mem c escaped, ?_⟩
    simp only [Text.solidCount_append, Text.solidCount_cons, Text.solidCount_nil] at fewer ⊢
    omega

/-- What the rest of a scalar contributes to its value. In an escape no more characters come out than
it is written with, blanks aside; the letter before a code point pays for the character. -/
def State.Yields (quote : Char) (raw value : Text) : State → Prop
  | .text gap => gap.broken = false → Continues quote gap.text raw value
  | .escape _ => value.solidCount ≤ raw.solidCount
  | .codePoint _ _ _ => value.solidCount ≤ raw.solidCount + 1

theorem State.Yields.solidCount_le (yields : State.Yields quote raw value (.text .empty)) :
    value.solidCount ≤ raw.solidCount := by
  have continues : Continues quote [] raw value := yields rfl
  simpa using continues.solidCount_le

/-- The letters of escapes are blank only where they stand for blanks. -/
theorem isBlank_of_lookup_escapes {escaped : Char} (known : escapes.lookup c = some escaped)
    (blank : Text.isBlank c) : Text.isBlank escaped := by
  have all : ∀ entry ∈ escapes, Text.isBlank entry.1 → Text.isBlank entry.2 := by decide
  obtain ⟨front, back, whole, -⟩ := List.lookup_eq_some_iff.mp known
  exact all (c, escaped) (by simp [whole]) blank

/-- The letter before a code point is not blank. -/
theorem isBlank_of_codePointDigits? {count : Nat} (counts : codePointDigits? c = some count) :
    Text.isBlank c = false := by
  unfold codePointDigits? at counts
  split_ifs at counts with x u U
  · rw [x]
    decide
  · rw [u]
    decide
  · rw [U]
    decide

/-- A quoted scalar on one line that goes up to the end of its text ends with its quote. -/
theorem readFrom_whole (isQuote : quote = '"' ∨ quote = '\'') {state : State}
    (unbroken : ∀ c ∈ text, isBreak c = false)
    (read : readFrom quote start state text mark = .ok (value, cursor)) (ends : cursor.rest = []) :
    ∃ raw, text = raw ++ [quote] ∧ state.Yields quote raw value := by
  fun_induction readFrom quote start state text mark generalizing value cursor
  case case1 | case5 | case10 | case15 | case16 | case17 | case20 => cases read
  case case2 | case11 => exact absurd (unbroken '\r' List.mem_cons_self) (by decide)
  case case3 broken _ | case12 broken _ =>
    exact absurd broken (by simp [unbroken _ List.mem_cons_self])
  case case4 gap c rest mark _ _ space ih =>
    obtain ⟨raw, same, yields⟩ :=
      ih (fun d member => unbroken d (List.mem_cons_of_mem c member)) read ends
    refine ⟨c :: raw, congrArg (c :: ·) same, fun inline => ?_⟩
    have continues := yields (Gap.addSpace_broken c inline)
    rw [Gap.addSpace_text c inline] at continues
    obtain rfl | rfl := isQuote
    · exact continues.cons (by rintro rfl; cases space) (by rintro rfl; cases space)
    · exact continues.cons (by rintro rfl; cases space) (by rintro rfl; cases space)
  case case6 gap mark rest isQuote _ _ _ _ ih =>
    obtain ⟨result, sub, same⟩ := exists_of_bind_eq_ok read
    cases same
    subst isQuote
    obtain ⟨raw, same, yields⟩ := ih (fun d member => unbroken d (by simp [member])) sub ends
    refine ⟨'\'' :: '\'' :: raw, congrArg ('\'' :: '\'' :: ·) same, fun _ => .inr ⟨?_, ?_⟩⟩
    · exact List.mem_cons_self
    · have most := yields.solidCount_le
      simp only [Text.solidCount_append, Text.solidCount_cons, (by decide : Text.isBlank '\'' = false),
        Bool.false_eq_true, ↓reduceIte]
      omega
  case case7 gap mark rest single line solid _ _ =>
    cases read
    obtain rfl : rest = [] := ends
    exact ⟨[], rfl, fun _ => .inl ⟨(List.append_nil _).symm, List.not_mem_nil, List.not_mem_nil⟩⟩
  case case8 gap c rest mark _ line solid _ other literal ih =>
    obtain ⟨result, sub, same⟩ := exists_of_bind_eq_ok read
    cases same
    obtain ⟨rfl, rfl⟩ : quote = '"' ∧ c = '\\' := by simpa using literal
    obtain ⟨raw, same, yields⟩ :=
      ih (fun d member => unbroken d (List.mem_cons_of_mem _ member)) sub ends
    refine ⟨'\\' :: raw, congrArg ('\\' :: ·) same, fun _ => .inr ⟨List.mem_cons_self, ?_⟩⟩
    have most : result.1.solidCount ≤ raw.solidCount := yields
    simp only [Text.solidCount_append, Text.solidCount_cons, (by decide : Text.isBlank '\\' = false),
      Bool.false_eq_true, ↓reduceIte]
    omega
  case case9 gap c rest mark _ line solid _ other literal ih =>
    obtain ⟨result, sub, same⟩ := exists_of_bind_eq_ok read
    cases same
    obtain ⟨raw, same, yields⟩ :=
      ih (fun d member => unbroken d (List.mem_cons_of_mem c member)) sub ends
    refine ⟨c :: raw, congrArg (c :: ·) same, fun _ => ?_⟩
    have continues : Continues quote [] raw result.1 := yields rfl
    have whole := continues.prepend (gap.text ++ [c])
    rw [List.append_nil, List.append_assoc, List.singleton_append] at whole
    refine whole.cons (Ne.symm other) ?_
    obtain rfl | rfl := isQuote
    · rintro rfl
      exact literal (by decide)
    · exact Ne.symm other
  case case13 c rest mark _ line escaped known ih =>
    obtain ⟨result, sub, same⟩ := exists_of_bind_eq_ok read
    cases same
    obtain ⟨raw, same, yields⟩ :=
      ih (fun d member => unbroken d (List.mem_cons_of_mem c member)) sub ends
    refine ⟨c :: raw, congrArg (c :: ·) same, ?_⟩
    change Text.solidCount (escaped :: result.1) ≤ _
    have most := yields.solidCount_le
    simp only [Text.solidCount_cons]
    by_cases blank : Text.isBlank c
    · rw [if_pos blank, if_pos (isBlank_of_lookup_escapes known blank)]
      exact most
    · rw [if_neg blank]
      split_ifs <;> omega
  case case14 c rest mark _ line unknown count counts ih =>
    obtain ⟨raw, same, most⟩ :=
      ih (fun d member => unbroken d (List.mem_cons_of_mem c member)) read ends
    refine ⟨c :: raw, congrArg (c :: ·) same, most.trans ?_⟩
    simp [isBlank_of_codePointDigits? counts]
  case case18 missing value' digits c rest mark digit known value'' more ih =>
    obtain ⟨raw, same, most⟩ :=
      ih (fun d member => unbroken d (List.mem_cons_of_mem c member)) read ends
    refine ⟨c :: raw, congrArg (c :: ·) same, most.trans ?_⟩
    simp only [Text.solidCount_cons]
    omega
  case case19 missing value' digits c rest mark digit known value'' last codePoint ih =>
    obtain ⟨result, sub, same⟩ := exists_of_bind_eq_ok read
    cases same
    obtain ⟨raw, same, yields⟩ :=
      ih (fun d member => unbroken d (List.mem_cons_of_mem c member)) sub ends
    refine ⟨c :: raw, congrArg (c :: ·) same, ?_⟩
    change Text.solidCount (_ :: result.1) ≤ _ + 1
    have most := yields.solidCount_le
    simp only [Text.solidCount_cons]
    split_ifs <;> omega

end QuotedScalar

/-! ## Taking the quotes off -/

/-- A scalar without quotes is not changed. -/
theorem stripQuotes_of_head {text : Text} (noQuote : ∀ c, text.head? = some c → c ≠ '"' ∧ c ≠ '\'') :
    stripQuotes text = text := by
  have outside (quote : Char) (other : ∀ c, text.head? = some c → c ≠ quote) :
      insideQuotes? quote text = none := by
    unfold insideQuotes?
    split
    · next c rest => rw [if_neg (by simp [other c rfl])]
    · rfl
  rw [stripQuotes, outside '"' fun c first => (noQuote c first).1,
    outside '\'' fun c first => (noQuote c first).2]
  rfl

/-- Quotes of one kind are taken off if there are no others of the kind between them. -/
theorem stripQuotes_quoted {quote : Char} (isQuote : quote = '"' ∨ quote = '\'') (raw : Text) :
    stripQuotes (quote :: (raw ++ [quote])) =
      if quote ∈ raw then quote :: (raw ++ [quote]) else raw := by
  have own : insideQuotes? quote (quote :: (raw ++ [quote])) =
      if quote ∈ raw then none else some raw := by
    by_cases inside : quote ∈ raw <;> simp [insideQuotes?, inside]
  have other (mark : Char) (apart : quote ≠ mark) :
      insideQuotes? mark (quote :: (raw ++ [quote])) = none := by
    simp [insideQuotes?, apart]
  obtain rfl | rfl := isQuote
  · rw [stripQuotes, own, other '\'' (by decide)]
    split <;> rfl
  · rw [stripQuotes, own, other '"' (by decide)]
    split <;> rfl

/-- A plain scalar that is a string is its text. -/
theorem Scalar.eq_of_resolve_eq_string {text value : Text}
    (resolves : Scalar.resolve text = .ok (.string value)) : value = text := by
  unfold Scalar.resolve at resolves
  split at resolves
  · cases resolves
  · split at resolves
    · cases resolves
    · split at resolves
      · next outcome found =>
          obtain ⟨n, -, isValue⟩ := Option.bind_eq_some_iff.mp found
          split_ifs at isValue <;> cases isValue <;> cases resolves
      · split at resolves
        · cases resolves
        · cases resolves
          rfl

/-- A string without its quotes is its value if nothing is escaped in it, and otherwise has more
characters that are not blank. -/
theorem Word.Spells.stripQuotes_cases {word : Word} {text value : Text} (spells : word.Spells text)
    (isString : word.value = .string value) :
    ¬ HasEscapes text ∧ stripQuotes text = value ∨
      HasEscapes text ∧ value.solidCount < (stripQuotes text).solidCount := by
  cases spells with
  | plain isPlain resolves =>
    dsimp only at isString
    rw [isString] at resolves
    obtain ⟨c, rest, rfl, -, starts⟩ := isPlain.starts
    have noQuote : c ≠ '"' ∧ c ≠ '\'' := by
      obtain other | ⟨rfl | rfl | rfl, -⟩ := starts
      · constructor <;> rintro rfl <;> exact absurd other (by decide)
      all_goals decide
    rw [Scalar.eq_of_resolve_eq_string resolves,
      stripQuotes_of_head (by rintro d ⟨⟩; exact noQuote)]
    exact .inl ⟨fun escapes => escapes.1.elim noQuote.1 noQuote.2, rfl⟩
  | @quoted quote style inside content _ isQuote unbroken read =>
    have isQuote : quote = '"' ∨ quote = '\'' := isQuote.imp And.left And.left
    obtain rfl : content = value := by simpa using isString
    obtain ⟨raw, rfl, yields⟩ := QuotedScalar.readFrom_whole isQuote unbroken read rfl
    have continues : QuotedScalar.Continues quote [] raw content := yields rfl
    have escapes : HasEscapes (quote :: (raw ++ [quote])) ↔ escapeSign quote ∈ raw := by
      rw [HasEscapes, List.dropLast_concat]
      exact and_iff_right isQuote
    rw [escapes, stripQuotes_quoted isQuote]
    obtain ⟨same, noQuote, noSign⟩ | ⟨escaped, fewer⟩ := continues
    · rw [if_neg noQuote]
      exact .inl ⟨noSign, same.symm⟩
    · rw [Text.solidCount_nil, Nat.zero_add] at fewer
      refine .inr ⟨escaped, ?_⟩
      split
      · simp only [Text.solidCount_cons, Text.solidCount_append]
        omega
      · exact fewer

section

variable {word : Word} {text value : Text} (spells : word.Spells text)
  (isString : word.value = .string value)
include spells isString

/-- **Taking the quotes off.** A string without its quotes is its value exactly if nothing is escaped
in it. -/
theorem Word.Spells.stripQuotes_eq_iff : stripQuotes text = value ↔ ¬ HasEscapes text := by
  obtain ⟨none, same⟩ | ⟨escaped, more⟩ := spells.stripQuotes_cases isString
  · exact iff_of_true same none
  · exact iff_of_false (fun same => absurd more (same ▸ Nat.lt_irrefl _)) (not_not_intro escaped)

/-- Trimmed as well it is its value exactly if that has no blanks at its ends. -/
theorem Word.Spells.trim_stripQuotes_eq_iff :
    Text.trim (stripQuotes text) = value ↔ ¬ HasEscapes text ∧ Text.trim value = value := by
  obtain ⟨none, same⟩ | ⟨escaped, more⟩ := spells.stripQuotes_cases isString
  · rw [same]
    exact (and_iff_right none).symm
  · refine iff_of_false (fun same => ?_) fun both => both.1 escaped
    rw [← same, Text.solidCount_trim] at more
    exact absurd more (Nat.lt_irrefl _)

end

end PlaybookRepair.Yaml
