import PlaybookRepair.Proofs.Yaml.Word

/-!
# A mapping of one entry

A key, a colon and a scalar that goes up to the end of the text, with no line feed behind it, are read
as a mapping of one entry (`readSingle_pair`). So a value can be tried out behind any key.
-/

namespace PlaybookRepair.Yaml

open TokenReader

variable {text : Text} {column block : Nat} {blocks : List Nat} {word : Word}

/-- A scalar behind a key that goes up to the end of the text. -/
theorem leads_end {value : Text} {style : ScalarStyle} (starts : StartsToken column text)
    (nonempty : text ≠ []) (left : ∀ block ∈ blocks.head?, block ≤ column)
    (reads : ∀ past : Past, readToken (Spot.reader ⟨text, column, blocks, false⟩ past) =
      .ok { Spot.reader ⟨[], column + text.length, blocks, false⟩ past with
        cursor := ⟨[], Mark.advance ⟨past.index, past.line, column⟩ text.length⟩
        queue := past.queue ++ [⟨.scalar value style, ⟨past.index, past.line, column⟩⟩] }) :
    Leads ⟨text, column, blocks, false⟩ [.scalar value style]
      ⟨[], column + text.length, blocks, false⟩ := by
  intro past
  let queue : List Token :=
    past.queue ++ [⟨.scalar value style, ⟨past.index, past.line, column⟩⟩]
  let read : TokenReader :=
    { Spot.reader ⟨[], column + text.length, blocks, false⟩ past with
      cursor := ⟨[], Mark.advance ⟨past.index, past.line, column⟩ text.length⟩
      queue }
  have step : (Spot.reader ⟨text, column, blocks, false⟩ past).step = .ok read :=
    (step_eq_readToken (Spot.reader ⟨text, column, blocks, false⟩ past) starts rfl left).trans
      (reads past)
  have sent : read.deliver = .ok (queue, { read with
      queue := []
      delivered := past.delivered + queue.length }) := deliver_of_stale rfl nofun
  refine ⟨1, queue, ⟨past.index + text.length, past.line, past.delivered + queue.length, []⟩, ?_,
    by simp [queue], fun fuel => ?_⟩
  · have := List.length_pos_iff.mpr nonempty
    simp only [List.length_nil]
    omega
  · rw [Nat.add_comm 1, run_succ _ step sent rfl]
    rfl

/-- A quoted scalar on one line ends with its closing quote also at the end of the text. -/
theorem QuotedScalar.read_whole {quote : Char} {inside content : Text} {first : Mark}
    (unbroken : ∀ c ∈ inside, isBreak c = false)
    (read : QuotedScalar.read quote ⟨quote :: inside, .start⟩ = .ok (content, ⟨[], first⟩))
    (mark : Mark) :
    QuotedScalar.read quote ⟨quote :: inside, mark⟩ =
      .ok (content, ⟨[], mark.advance (quote :: inside).length⟩) := by
  obtain ⟨taken, whole, -, reads⟩ := QuotedScalar.read_isLocal unbroken read
  rw [List.append_nil] at whole
  subst whole
  simpa using reads () mark [] (Nat.zero_le _) nofun

namespace Word.Spells

theorem startsToken (spells : word.Spells text) (inside : 0 < column) : StartsToken column text := by
  cases spells with
  | plain isPlain =>
    have starts : StartsToken column (text ++ []) :=
      startsToken_of_isPlain isPlain fun start => absurd start (Nat.pos_iff_ne_zero.mp inside)
    rwa [List.append_nil] at starts
  | quoted isQuote => exact startsToken_quote isQuote

theorem ne_nil (spells : word.Spells text) : text ≠ [] := by
  cases spells with
  | plain isPlain =>
    rintro rfl
    exact PlainScalar.not_isPlain_nil isPlain
  | quoted => exact List.cons_ne_nil _ _

/-- The scalar as the value of a key, up to the end of the text. -/
theorem leads_end (spells : word.Spells text) (inside : 0 < column) (right : block ≤ column) :
    Leads ⟨text, column, block :: blocks, false⟩ [.scalar word.text word.style]
      ⟨[], column + text.length, block :: blocks, false⟩ := by
  refine Yaml.leads_end (spells.startsToken inside) spells.ne_nil (by rintro _ ⟨⟩; exact right)
    fun past => ?_
  cases spells with
  | plain isPlain =>
    obtain ⟨c, tail, begins, solid, indicator⟩ := isPlain.starts
    have nonzero : column ≠ 0 := Nat.pos_iff_ne_zero.mp inside
    have read : PlainScalar.read false (block + 1) ⟨text, ⟨past.index, past.line, column⟩⟩ =
        .ok ⟨text, false, ⟨[], Mark.advance ⟨past.index, past.line, column⟩ text.length⟩⟩ := by
      rw [← List.append_nil text, PlainScalar.read_append isPlain (Nat.succ_le_succ right)]
      simp [PlainScalar.readFrom, Except.map]
    have isPlainToken : readToken (Spot.reader ⟨text, column, block :: blocks, false⟩ past) =
        (Spot.reader ⟨text, column, block :: blocks, false⟩ past).readPlainScalar :=
      readToken_of_plain begins solid indicator rfl fun start => absurd start nonzero
    rw [isPlainToken]
    simp [readPlainScalar, Spot.reader, markCandidate, inFlow, TokenReader.mark, pushUpTo, push,
      bind, Except.bind, pure, Except.pure, read]
  | @quoted quote style inside content _ isQuote unbroken read =>
    have here := QuotedScalar.read_whole unbroken read ⟨past.index, past.line, column⟩
    rw [readToken_quote isQuote rfl]
    simp [readQuotedScalar, Spot.reader, markCandidate, pushUpTo, push, TokenReader.mark, bind,
      Except.bind, pure, Except.pure, here]

end Word.Spells

/-- A text between double quotes is the string. -/
theorem spells_doubleQuoted {value : Text} (unbroken : ∀ c ∈ value, isBreak c = false) :
    Word.Spells ⟨value, .doubleQuoted, .string value⟩ (InlineValue.doubleQuoted value) := by
  obtain ⟨width, read⟩ := QuotedScalar.read_doubleQuoted unbroken [] .start
  rw [List.append_nil] at read
  refine .quoted (.inl ⟨rfl, rfl⟩) ?_ read
  have inside : ∀ c ∈ InlineValue.doubleQuoted value, isBreak c = false := by
    intro c member
    obtain own | rfl | rfl := InlineValue.mem_of_mem_doubleQuoted member
    · exact unbroken c own
    · decide
    · decide
  exact fun c member => inside c (List.mem_cons_of_mem _ member)

/-- **A key and a scalar behind it are a mapping of one entry.** -/
theorem readSingle_pair {key : Word} {name : Text} (isKey : key.IsWritten name)
    (spells : word.Spells text) (allowed : ∀ c ∈ name ++ text, isAllowed c) :
    readSingle (name ++ ": ".toList ++ text) = .ok (.mapping [(key.value, word.value)]) := by
  have whole : name ++ ": ".toList ++ text = name ++ ':' :: ' ' :: text := List.append_assoc ..
  have sound : (Phrase.mapping [(key, .word word)]).IsSound 1 :=
    Phrase.isSound_mapping (by simpa using isKey.resolves) (List.pairwise_singleton ..)
      (by simpa using (Phrase.isSound_word spells.resolves).toIsValue)
  have leads : Leads ⟨name ++ ':' :: ' ' :: text, 0, [], true⟩
      (.blockMappingStart :: [.key, .scalar key.text key.style, .value] ++
        ([] ++ [.scalar word.text word.style])) _ :=
    (isKey.leads 0 [] (' ' :: text) rfl nofun).trans
      (leads_space.trans (spells.leads_end (by omega) (Nat.zero_le _)))
  obtain ⟨document, documents, value⟩ := sound.documents_eq_bare (by decide) (fun c member => by
    simp only [List.mem_append, List.mem_cons] at member
    obtain own | rfl | rfl | own := member
    · exact allowed c (List.mem_append_left _ own)
    · decide
    · decide
    · exact allowed c (List.mem_append_right _ own)) leads rfl
  rw [whole, readSingle, documents]
  simp only [value, bind, Except.bind, pure, Except.pure, List.isEmpty_nil, ↓reduceIte]
  rfl

end PlaybookRepair.Yaml
