import PlaybookRepair.Proofs.Yaml.Layout
import PlaybookRepair.Proofs.Yaml.OneLine

/-!
# Texts that are scalars

A text on one line is a scalar if it is plain, or if it starts with a quote and is read up to its end
(`Word.Spells`). Such a text is the same scalar wherever it is written after a key
(`Word.Spells.follows`), and it can be a key itself if it is short (`Word.Spells.isWritten`). Whether a
text is a scalar, and which one, can be computed (`word?`).
-/

namespace PlaybookRepair.Yaml

open TokenReader
open PlainScalar (IsPlain)

/-- All of the text is read as the scalar. -/
inductive Word.Spells : Word → Text → Prop
  | plain {text : Text} {value : Value} (isPlain : IsPlain text)
    (resolves : Scalar.resolve text = .ok value) : Spells ⟨text, .plain, value⟩ text
  | quoted {quote : Char} {style : ScalarStyle} {inside content : Text} {mark : Mark}
    (isQuote : IsQuote quote style) (unbroken : ∀ c ∈ inside, isBreak c = false)
    (read : QuotedScalar.read quote ⟨quote :: inside, .start⟩ = .ok (content, ⟨[], mark⟩)) :
    Spells ⟨content, style, .string content⟩ (quote :: inside)

namespace TokenReader

theorem IsQuote.ne_plain {quote : Char} {style : ScalarStyle} (isQuote : IsQuote quote style) :
    style ≠ .plain := by
  rcases isQuote with ⟨-, rfl⟩ | ⟨-, rfl⟩ <;> decide

/-- Before a sign that is no quote a quoted scalar on one line ends with its closing quote, wherever
it stands. -/
theorem IsQuote.read_eq {quote : Char} {style : ScalarStyle} {inside content : Text} {first : Mark}
    (isQuote : IsQuote quote style) (unbroken : ∀ c ∈ inside, isBreak c = false)
    (read : QuotedScalar.read quote ⟨quote :: inside, .start⟩ = .ok (content, ⟨[], first⟩))
    {sign : Char} (other : sign ≠ '"' ∧ sign ≠ '\'') (rest : Text) (mark : Mark) :
    QuotedScalar.read quote ⟨quote :: inside ++ sign :: rest, mark⟩ =
      .ok (content, ⟨sign :: rest, mark.advance (quote :: inside).length⟩) := by
  obtain ⟨taken, whole, -, reads⟩ := QuotedScalar.read_isLocal unbroken read
  rw [List.append_nil] at whole
  subst whole
  have ends : some sign ≠ some quote := by
    rcases isQuote with ⟨rfl, -⟩ | ⟨rfl, -⟩
    · exact fun same => other.1 (Option.some.inj same)
    · exact fun same => other.2 (Option.some.inj same)
  exact reads () mark (sign :: rest) (Nat.zero_le _) ends

end TokenReader

namespace Word

variable {word : Word} {text : Text} {most column : Nat}

theorem Spells.resolves (spells : word.Spells text) : word.Resolves := by
  cases spells with
  | plain isPlain resolves => simpa [Resolves, Scalar.value] using resolves
  | quoted isQuote => simp [Resolves, Scalar.value, isQuote.ne_plain]

/-- The scalar as the value of a key, behind a space and up to the end of its line. -/
theorem Spells.follows (spells : word.Spells text) :
    Follows most column (' ' :: text ++ ['\n']) (.word word) := by
  intro place blocks rest right next
  obtain ⟨blank, width, body, gap, starts, left, -⟩ := next
  have scalar : Leads ⟨text ++ (lineGap blank width ++ body), place + 1, column :: blocks, false⟩
      [.scalar word.text word.style] ⟨body, width, column :: blocks, true⟩ := by
    cases spells with
    | plain isPlain => exact leads_plain isPlain (by omega) rfl (by omega) left nofun starts
    | @quoted quote style inside content _ isQuote unbroken read =>
      refine leads_quoted isQuote (fun mark => ⟨(quote :: inside).length, ?_⟩) rfl (by omega) nofun
        starts
      rw [← gap]
      exact isQuote.read_eq unbroken read (by decide) rest mark
  rw [lineSpot_of_gap gap starts]
  simpa [gap, Phrase.word] using leads_space.trans scalar

/-- A short scalar can be a key if its line does not start like a document sign or with a byte order
mark. -/
theorem Spells.isWritten (spells : word.Spells text) (short : text.length ≤ maxKeyLength)
    (head : text.head? ≠ some '.' ∧ text.head? ≠ some '-' ∧ text.head? ≠ some '\uFEFF') :
    word.IsWritten text := by
  have found := spells.resolves
  cases spells with
  | plain isPlain resolves => exact isWritten_plain { toIsPlain := isPlain, short, head } resolves
  | @quoted quote style inside content _ isQuote unbroken read =>
    refine ⟨found, fun _ _ => startsToken_quote isQuote, fun column blocks rest ends left => ?_⟩
    refine leads_key_of_readToken (List.cons_ne_nil _ _) short ends (startsToken_quote isQuote) left
      fun past => ?_
    have here := isQuote.read_eq unbroken read (by decide : ':' ≠ '"' ∧ ':' ≠ '\'') rest
      ⟨past.index, past.line, column⟩
    rw [readToken_quote isQuote rfl]
    simp [readQuotedScalar, Spot.reader, Spot.keyReader, markCandidate, dropCandidate, inFlow,
      TokenReader.mark, pushUpTo, push, bind, Except.bind, pure, Except.pure] at here ⊢
    simp only [here]
    rfl

end Word

/-! ## The scalar of a text -/

/-- What is read between the quotes around a text, if all of the text is. -/
def quotedWord? (quote : Char) (style : ScalarStyle) (text : Text) : Option Word :=
  match QuotedScalar.read quote ⟨text, .start⟩ with
  | .ok (content, ⟨[], _⟩) => some ⟨content, style, .string content⟩
  | _ => none

/-- The scalar that a text is. -/
def word? (text : Text) : Option Word :=
  match text with
  | '"' :: _ => quotedWord? '"' .doubleQuoted text
  | '\'' :: _ => quotedWord? '\'' .singleQuoted text
  | _ =>
    if IsPlain text then (Scalar.resolve text).toOption.map fun value => ⟨text, .plain, value⟩
    else none

instance (found : Option Word) (text string : Text) (style : ScalarStyle) :
    Decidable (found = some ⟨text, style, .string string⟩) :=
  match found with
  | some ⟨ownText, ownStyle, .string ownString⟩ =>
    decidable_of_iff (ownText = text ∧ ownStyle = style ∧ ownString = string) (by simp)
  | none | some ⟨_, _, .null⟩ | some ⟨_, _, .bool _⟩ | some ⟨_, _, .number _⟩
  | some ⟨_, _, .sequence _⟩ | some ⟨_, _, .mapping _⟩ | some ⟨_, _, .tagged _ _⟩ => isFalse nofun

theorem spells_of_quotedWord? {quote : Char} {style : ScalarStyle} {inside : Text} {word : Word}
    (isQuote : IsQuote quote style) (unbroken : ∀ c ∈ inside, isBreak c = false)
    (found : quotedWord? quote style (quote :: inside) = some word) :
    word.Spells (quote :: inside) := by
  unfold quotedWord? at found
  split at found
  next content mark read =>
    cases found
    exact .quoted isQuote unbroken read
  · cases found

theorem spells_of_word? {text : Text} {word : Word} (unbroken : ∀ c ∈ text, isBreak c = false)
    (found : word? text = some word) : word.Spells text := by
  unfold word? at found
  split at found
  next inside =>
    exact spells_of_quotedWord? (.inl ⟨rfl, rfl⟩)
      (fun c member => unbroken c (List.mem_cons_of_mem _ member)) found
  next inside =>
    exact spells_of_quotedWord? (.inr ⟨rfl, rfl⟩)
      (fun c member => unbroken c (List.mem_cons_of_mem _ member)) found
  · split at found
    next isPlain =>
      obtain ⟨value, resolves, rfl⟩ := Option.map_eq_some_iff.mp found
      cases outcome : Scalar.resolve text with
      | error error =>
        rw [outcome] at resolves
        cases resolves
      | ok other =>
        rw [outcome] at resolves
        cases resolves
        exact .plain isPlain outcome
    · cases found

end PlaybookRepair.Yaml
