import PlaybookRepair.Proofs.Tidy.Line

/-!
# The grammar of keyed lines

The body of a line has a key exactly if it is a key, a gap, a colon and then either nothing or a gap
and a rest, whose trimmed text is the value. `IsKey` and `Gives` state the two parts of this grammar
without the functions that read it, and `Spells` puts them together. Reading finds the key and the
value of every body in the grammar (`Spells.splitKeyValue?`) and finds nothing else
(`exists_spells`), so a body is taken apart in one way only. What is written for a key and a value is
taken apart into the same two again. `splitKeyValue?_eq_some_iff_spells` says all of this.
-/

namespace PlaybookRepair

namespace Text

/-- Blanks before a text are trimmed off, whatever the text starts with. -/
theorem trim_append_of_blank {blanks : Text} (areBlank : ∀ c ∈ blanks, isBlank c) (text : Text) :
    trim (blanks ++ text) = trim text := by
  unfold trim trimStart
  rw [List.dropWhile_append_of_pos areBlank]

end Text

namespace KeyedLine

/-- The keys: an ASCII letter or an underscore with word characters, full stops, hyphens and slashes
behind it, or a text between two quotes that it does not hold itself. -/
inductive IsKey : Text → Prop
  | name (first : Char) (rest : Text) (starts : first.isAlpha ∨ first = '_')
      (goesOn : ∀ c ∈ rest, Text.isWordChar c ∨ c = '.' ∨ c = '-' ∨ c = '/') :
      IsKey (first :: rest)
  | quoted (quote : Char) (inside : Text) (isQuote : quote = '"' ∨ quote = '\'')
      (notEmpty : inside ≠ []) (apart : quote ∉ inside) : IsKey (quote :: inside ++ [quote])

/-- Spaces and tabs only. -/
def IsGap (text : Text) : Prop := ∀ c ∈ text, c = ' ' ∨ c = '\t'

/-- The text behind a colon gives the value: nothing gives an empty one, and a rest behind a space or
tab gives the trimmed rest. -/
inductive Gives : Text → Text → Prop
  | nothing : Gives [] []
  | rest (gap rest : Text) (isGap : IsGap gap) (notEmpty : gap ≠ []) :
      Gives (gap ++ rest) (Text.trim rest)

/-- The body is the key, the gap, a colon and the text behind it, which gives the value. -/
structure Spells (body key gap after value : Text) : Prop where
  isKey : IsKey key
  areGaps : IsGap gap
  whole : body = key ++ gap ++ ':' :: after
  gives : Gives after value

/-- A key and its value as they are written: without a value the line ends with the colon. -/
def normalForm (key value : Text) : Text :=
  if value.isEmpty then key ++ [':'] else key ++ ": ".toList ++ value

variable {body key gap after rest value : Text}

theorem isGap_iff : IsGap gap ↔ ∀ c ∈ gap, isGap c := by
  simp only [IsGap, isGap, Bool.or_eq_true, decide_eq_true_eq]

theorem IsGap.isBlank (areGaps : IsGap gap) : ∀ c ∈ gap, Text.isBlank c := by
  intro c member
  obtain rfl | rfl := areGaps c member
  · rfl
  · rfl

/-! ## Keys -/

/-- A key between quotes ends at the first quote. -/
theorem splitQuotedKey?_inside {quote : Char} {inside : Text} (notEmpty : inside ≠ [])
    (apart : quote ∉ inside) (rest : Text) :
    splitQuotedKey? quote (inside ++ quote :: rest) =
      some (quote :: inside ++ [quote], rest) := by
  have noQuote : ∀ c ∈ inside, decide (c ≠ quote) = true := by
    intro c member
    apply decide_eq_true
    rintro rfl
    exact apart member
  have isInside : (inside ++ quote :: rest).takeWhile (· ≠ quote) = inside := by
    rw [List.takeWhile_append_of_pos noQuote, List.takeWhile_cons_of_neg (by simp),
      List.append_nil]
  have behind : (inside ++ quote :: rest).dropWhile (· ≠ quote) = quote :: rest := by
    rw [List.dropWhile_append_of_pos noQuote, List.dropWhile_cons_of_neg (by simp)]
  rw [splitQuotedKey?, isInside, behind]
  exact if_neg (by simpa using notEmpty)

/-- A key is found before anything that a name cannot go on with. -/
theorem IsKey.splitKey? (isKey : IsKey key)
    (ends : ∀ c, rest.head? = some c → isKeyChar c = false) :
    splitKey? (key ++ rest) = some (key, rest) := by
  cases isKey with
  | name first more starts goesOn =>
      apply splitKey?_of_isName _ ends
      rw [isName, Bool.and_eq_true, List.all_eq_true]
      constructor
      · simpa [isKeyStart] using starts
      · intro c member
        simpa [isKeyChar, or_assoc] using goesOn c member
  | quoted quote inside isQuote notEmpty apart =>
      have found := splitQuotedKey?_inside notEmpty apart rest
      rw [List.append_assoc]
      obtain rfl | rfl := isQuote
      · exact found
      · exact found

theorem isKey_of_splitQuotedKey? {quote : Char} {text : Text} (isQuote : quote = '"' ∨ quote = '\'')
    (split : splitQuotedKey? quote text = some (key, rest)) : IsKey key := by
  unfold splitQuotedKey? at split
  dsimp only at split
  split at split
  · split at split
    · cases split
    · next notEmpty =>
      cases split
      refine .quoted quote _ isQuote (by simpa using notEmpty) ?_
      intro member
      have other := List.mem_takeWhile_imp (p := fun c => decide (c ≠ quote)) member
      exact of_decide_eq_true other rfl
  · cases split

/-- What is found at the start of a body is a key. -/
theorem isKey_of_splitKey? (split : splitKey? body = some (key, rest)) : IsKey key := by
  unfold splitKey? at split
  split at split
  · exact isKey_of_splitQuotedKey? (.inl rfl) split
  · exact isKey_of_splitQuotedKey? (.inr rfl) split
  · split at split
    · next first more _ _ starts =>
      cases split
      apply IsKey.name
      · simpa [isKeyStart] using starts
      · intro c member
        have isChar := List.mem_takeWhile_imp (p := isKeyChar) member
        simpa [isKeyChar, or_assoc] using isChar
    · cases split
  · cases split

/-! ## Values -/

theorem Gives.valueAfterColon? (gives : Gives after value) (isLine : after.IsLine) :
    valueAfterColon? after = some value := by
  cases gives with
  | nothing => rfl
  | rest gap rest areGaps notEmpty =>
      obtain ⟨first, more, rfl⟩ := List.exists_cons_of_ne_nil notEmpty
      have firstIsGap : isGap first := isGap_iff.mp areGaps first List.mem_cons_self
      have moreIsBlank : ∀ c ∈ more, Text.isBlank c :=
        fun c member => areGaps.isBlank c (List.mem_cons_of_mem first member)
      have onOneLine : (more ++ rest).contains '\n' = false := by
        rw [List.contains_eq_mem, decide_eq_false_iff_not]
        exact (Text.isLine_cons.mp isLine).2
      rw [List.cons_append, KeyedLine.valueAfterColon?, firstIsGap, onOneLine]
      exact congrArg some (Text.trim_append_of_blank moreIsBlank rest)

theorem gives_of_valueAfterColon? (isValue : valueAfterColon? after = some value) :
    Gives after value := by
  unfold valueAfterColon? at isValue
  split at isValue
  · cases isValue
    exact .nothing
  · next first rest =>
    split at isValue
    · next accepted =>
      cases isValue
      apply Gives.rest [first] rest _ (List.cons_ne_nil first [])
      apply isGap_iff.mpr
      rw [List.forall_mem_singleton]
      exact (Bool.and_eq_true_iff.mp accepted).1
    · cases isValue

/-! ## Keys with their values -/

/-- A body in the grammar is taken apart into its key and its value. -/
theorem Spells.splitKeyValue? (spells : Spells body key gap after value) (isLine : body.IsLine) :
    splitKeyValue? body = some (key, value) := by
  obtain ⟨isKey, areGaps, rfl, gives⟩ := spells
  rw [List.append_assoc] at isLine ⊢
  have colonBehind : (gap ++ ':' :: after).dropWhile isGap = ':' :: after := by
    rw [List.dropWhile_append_of_pos (isGap_iff.mp areGaps)]
    exact List.dropWhile_cons_of_neg (by decide)
  have ends : ∀ c, (gap ++ ':' :: after).head? = some c → isKeyChar c = false := by
    intro c first
    cases gap with
    | nil =>
        cases first
        decide
    | cons d gap =>
        cases first
        obtain rfl | rfl := areGaps c List.mem_cons_self
        · decide
        · decide
  have afterIsLine : after.IsLine :=
    (Text.isLine_cons.mp (Text.isLine_append.mp (Text.isLine_append.mp isLine).2).2).2
  rw [KeyedLine.splitKeyValue?, isKey.splitKey? ends]
  dsimp only
  rw [colonBehind]
  change (valueAfterColon? after).map (key, ·) = some (key, value)
  rw [gives.valueAfterColon? afterIsLine, Option.map_some]

/-- What is taken apart is in the grammar. -/
theorem exists_spells (split : splitKeyValue? body = some (key, value)) :
    ∃ gap after, Spells body key gap after value := by
  unfold KeyedLine.splitKeyValue? at split
  split at split
  · next found rest isKey =>
    split at split
    · next after colon =>
      obtain ⟨own, isValue, same⟩ := Option.map_eq_some_iff.mp split
      cases same
      refine ⟨rest.takeWhile isGap, after, isKey_of_splitKey? isKey, ?_, ?_,
        gives_of_valueAfterColon? isValue⟩
      · apply isGap_iff.mpr
        exact fun c member => List.mem_takeWhile_imp member
      · calc body = key ++ rest := (splitKey?_append isKey).symm
          _ = key ++ (rest.takeWhile isGap ++ rest.dropWhile isGap) := by
              rw [List.takeWhile_append_dropWhile]
          _ = key ++ rest.takeWhile isGap ++ ':' :: after := by rw [colon, List.append_assoc]
    · cases split
  · cases split

/-- No character of a gap is a colon, so the first colon behind a gap ends it. -/
theorem gap_unique {other otherAfter : Text} (areGaps : IsGap gap) (otherGaps : IsGap other)
    (same : gap ++ ':' :: after = other ++ ':' :: otherAfter) :
    gap = other ∧ after = otherAfter := by
  have noColon {text : Text} (isGap : IsGap text) : ':' ∉ text := by
    intro member
    obtain isSpace | isTab := isGap ':' member
    · cases isSpace
    · cases isTab
  have cut (more : Text) {text : Text} (isGap : IsGap text) :
      (text ++ ':' :: more).takeWhile (· ≠ ':') = text := by
    rw [List.takeWhile_append_of_pos, List.takeWhile_cons_of_neg (by decide), List.append_nil]
    intro c member
    apply decide_eq_true
    rintro rfl
    exact noColon isGap member
  have sameGap : gap = other := by
    rw [← cut after areGaps, same, cut otherAfter otherGaps]
  subst sameGap
  exact ⟨rfl, (List.cons.inj (List.append_cancel_left same)).2⟩

/-- **The grammar of keyed lines.** A body of one line has a key and a value exactly if it is in the
grammar with them. It is taken apart in one way only; where the gap behind the colon ends does not
count, since the rest is trimmed. And what is written for the key and the value has both again. -/
theorem splitKeyValue?_eq_some_iff_spells (body : Text) (isLine : body.IsLine) :
    (∀ key value, splitKeyValue? body = some (key, value) ↔
        ∃ gap after, Spells body key gap after value) ∧
      (∀ key gap after value key' gap' after' value', Spells body key gap after value →
        Spells body key' gap' after' value' →
          key = key' ∧ gap = gap' ∧ after = after' ∧ value = value') ∧
      ∀ key value, splitKeyValue? body = some (key, value) →
        splitKeyValue? (normalForm key value) = some (key, value) := by
  refine ⟨fun key value => ⟨exists_spells, ?_⟩, ?_, ?_⟩
  · rintro ⟨gap, after, spells⟩
    exact spells.splitKeyValue? isLine
  · intro key gap after value key' gap' after' value' spells spells'
    have sameParts : (key, value) = (key', value') := by
      apply Option.some.inj
      rw [← spells.splitKeyValue? isLine, spells'.splitKeyValue? isLine]
    obtain ⟨rfl, rfl⟩ := Prod.mk.inj sameParts
    have sameWhole : key ++ (gap ++ ':' :: after) = key ++ (gap' ++ ':' :: after') := by
      rw [← List.append_assoc, ← List.append_assoc, ← spells.whole, spells'.whole]
    have sameBehind := List.append_cancel_left sameWhole
    obtain ⟨sameGap, sameAfter⟩ := gap_unique spells.areGaps spells'.areGaps sameBehind
    exact ⟨rfl, sameGap, sameAfter, rfl⟩
  · intro key value split
    obtain ⟨-, trimmed, valueIsLine⟩ := splitKeyValue?_eq_some split
    obtain ⟨gap, after, isKey, -, whole, -⟩ := exists_spells split
    have keyIsLine : key.IsLine := isLine.of_subset (splitKeyValue?_subset split).1
    have noGap : IsGap [] := fun c member => absurd member List.not_mem_nil
    have oneSpace : IsGap [' '] := List.forall_mem_singleton.mpr (.inl rfl)
    rw [normalForm]
    split
    · next isEmpty =>
      obtain rfl := List.isEmpty_iff.mp isEmpty
      have spells : Spells (key ++ [':']) key [] [] [] :=
        ⟨isKey, noGap, by rw [List.append_nil], .nothing⟩
      apply spells.splitKeyValue?
      exact Text.isLine_append.mpr ⟨keyIsLine, by decide⟩
    · have spells : Spells (key ++ ": ".toList ++ value) key [] (' ' :: value) value := by
        refine ⟨isKey, noGap, ?_, ?_⟩
        · rw [List.append_nil, List.append_assoc]
          rfl
        · have gives := Gives.rest [' '] value oneSpace (List.cons_ne_nil ' ' [])
          rwa [trimmed] at gives
      apply spells.splitKeyValue?
      exact Text.isLine_append.mpr ⟨Text.isLine_append.mpr ⟨keyIsLine, by decide⟩, valueIsLine⟩

/-- A quoted key that holds a colon, a gap with a tab, and a value that holds blanks and a colon. -/
theorem splitKeyValue?_eq_some_iff_spells_quoted :
    let body : Text := "\"a: b\" \t:  c : d\t".toList
    body.IsLine ∧ splitKeyValue? body = some ("\"a: b\"".toList, "c : d".toList) ∧
      (∃ gap after, Spells body "\"a: b\"".toList gap after "c : d".toList) ∧
      splitKeyValue? (normalForm "\"a: b\"".toList "c : d".toList) =
        some ("\"a: b\"".toList, "c : d".toList) := by
  intro body
  have isLine : body.IsLine := by decide
  have split : splitKeyValue? body = some ("\"a: b\"".toList, "c : d".toList) := by decide +kernel
  obtain ⟨inGrammar, -, again⟩ := splitKeyValue?_eq_some_iff_spells body isLine
  exact ⟨isLine, split, (inGrammar _ _).mp split, again _ _ split⟩

end KeyedLine

end PlaybookRepair
