import PlaybookRepair.Config.Writing
import PlaybookRepair.Proofs.Toml.QuotedString
import PlaybookRepair.Proofs.Toml.Scalar
import PlaybookRepair.Proofs.Toml.Table
import PlaybookRepair.Toml.Document

/-!
# Lines of a configuration text read back

A text *writes* a value if it is read as that value at the end of a line (`Writes`), and it *states*
statements if they are read from its front whatever follows (`States`). Texts that stand one behind
the other state their statements one after the other, so a whole text is accounted for line by line.
-/

namespace PlaybookRepair.Toml.Document

variable {text more rest key : Text} {c : Char} {written : Value} {said further : List Statement}

/-! ## Characters of keys -/

theorem ne_of_isKeyChar {mark : Char} (inKey : isKeyChar c) (notInKey : isKeyChar mark = false) :
    c ≠ mark := by
  rintro rfl
  rw [inKey] at notInKey
  exact Bool.noConfusion notInKey

theorem isSpace_of_isKeyChar (inKey : isKeyChar c) : isSpace c = false := by
  have noBlank : c ≠ ' ' := ne_of_isKeyChar inKey rfl
  have noTab : c ≠ '\t' := ne_of_isKeyChar inKey rfl
  simp only [isSpace, noBlank, noTab, decide_false, Bool.or_self]

theorem skipSpaces_cons (inKey : isKeyChar c) (rest : Text) :
    skipSpaces (c :: rest) = c :: rest :=
  List.dropWhile_cons_of_neg (by rw [isSpace_of_isKeyChar inKey]; exact Bool.false_ne_true)

theorem skipGap_cons (inKey : isKeyChar c) (rest : Text) :
    skipGap false (c :: rest) = .ok (c :: rest) := by
  have noReturn : c ≠ '\r' := ne_of_isKeyChar inKey rfl
  have noFeed : c ≠ '\n' := ne_of_isKeyChar inKey rfl
  have noMark : c ≠ '#' := ne_of_isKeyChar inKey rfl
  have noSpace : isSpace c = false := isSpace_of_isKeyChar inKey
  rw [skipGap.eq_def]
  split <;> simp_all

theorem statement_cons (inKey : isKeyChar c) (rest : Text) :
    statement (c :: rest) =
      (pair (value depthLimit) (c :: rest)).map fun (pair, rest) => (.pair pair, rest) := by
  have noBracket : c ≠ '[' := ne_of_isKeyChar inKey rfl
  rw [statement.eq_def]
  split <;> simp_all

/-! ## Values -/

/-- A text is read as a value where the line ends behind it. -/
def Writes (text : Text) (written : Value) : Prop :=
  ∀ rest, value depthLimit (skipSpaces (text ++ '\n' :: rest)) = .ok (written, '\n' :: rest)

theorem writes_boolean (truth : Bool) : Writes (Config.booleanText truth) (.boolean truth) := by
  intro rest
  cases truth <;> rfl

theorem value_cons (inKey : isKeyChar c) (depth : Nat) (rest : Text) :
    value depth (c :: rest) = Scalar.read (c :: rest) := by
  have noBracket : c ≠ '[' := ne_of_isKeyChar inKey rfl
  have noBrace : c ≠ '\x7b' := ne_of_isKeyChar inKey rfl
  have noQuote : c ≠ '"' := ne_of_isKeyChar inKey rfl
  have noApostrophe : c ≠ '\'' := ne_of_isKeyChar inKey rfl
  have unquoted : QuotedString.read? (c :: rest) = none := by
    rw [QuotedString.read?.eq_def]
    split <;> simp_all
  rw [value.eq_def]
  split <;> split <;> simp_all [value.plain]

theorem writes_integer {n : Nat} (small : n < 2 ^ 128) : Writes (Text.ofNat n) (.integer n) := by
  intro rest
  have reads := Scalar.read_ofNat small rest
  obtain ⟨first, later, shown⟩ : ∃ first later, Text.ofNat n = first :: later :=
    List.exists_cons_of_ne_nil Nat.toDigits_ne_nil
  have inKey : isKeyChar first := by
    have isDigit := Scalar.all_isDigit_ofNat n first (by rw [shown]; exact List.mem_cons_self)
    rw [isKeyChar, Char.isAlphanum, isDigit, Bool.or_true, Bool.true_or, Bool.true_or]
  rw [shown, List.cons_append] at reads ⊢
  rw [skipSpaces_cons inKey, value_cons inKey, reads]

theorem write_eq_cons (text : Text) :
    ∃ quote later, (quote = '"' ∨ quote = '\'') ∧ QuotedString.write text = quote :: later := by
  unfold QuotedString.write
  cases QuotedString.styleOf text
  · exact ⟨'"', _, .inl rfl, rfl⟩
  · exact ⟨'\'', _, .inr rfl, rfl⟩
  · exact ⟨'"', _, .inl rfl, rfl⟩
  · exact ⟨'\'', _, .inr rfl, rfl⟩

/-- A quoted string is a value at any depth. -/
theorem value_write (depth : Nat) (text : Text)
    (noQuote : ∀ quote ∈ ['"', '\''], rest.head? ≠ some quote) :
    value depth (QuotedString.write text ++ rest) = .ok (.string text, rest) := by
  have reads := QuotedString.read?_write text noQuote
  obtain ⟨quote, later, isQuote, shown⟩ := write_eq_cons text
  rw [shown] at reads ⊢
  have plain : value depth (quote :: later ++ rest) = value.plain (quote :: later ++ rest) := by
    obtain rfl | rfl := isQuote <;> cases depth <;> rfl
  rw [plain, value.plain, reads]
  rfl

theorem skipGap_write (text rest : Text) :
    skipGap false (QuotedString.write text ++ rest) = .ok (QuotedString.write text ++ rest) := by
  obtain ⟨quote, later, rfl | rfl, shown⟩ := write_eq_cons text
  all_goals rw [shown]; rfl

theorem skipSpaces_write (text rest : Text) :
    skipSpaces (QuotedString.write text ++ rest) = QuotedString.write text ++ rest := by
  obtain ⟨quote, later, rfl | rfl, shown⟩ := write_eq_cons text
  all_goals rw [shown]; rfl

theorem writes_string (text : Text) : Writes (QuotedString.write text) (.string text) := by
  intro rest
  rw [skipSpaces_write, value_write depthLimit text]
  simp

/-! ## Sequences of strings -/

section Items

variable {α : Type} {closing : Char} {item : Reader α} {fuel : Nat} {first : α} {after later : Text}

theorem items_nil (skips : skipGap false text = .ok (closing :: rest)) :
    items closing item (fuel + 1) text = .ok ([], rest) := by
  rw [items, skips]
  exact if_pos rfl

theorem items_last (skips : skipGap false text = .ok more)
    (goesOn : ∃ c later, more = c :: later ∧ c ≠ closing) (reads : item more = .ok (first, after))
    (ends : skipGap false after = .ok (closing :: rest)) :
    items closing item (fuel + 1) text = .ok ([first], rest) := by
  obtain ⟨c, later, rfl, notClosed⟩ := goesOn
  rw [items, skips]
  simp only [bind, Except.bind, if_neg notClosed, reads, ends, if_true]
  rfl

theorem items_more (skips : skipGap false text = .ok more)
    (goesOn : ∃ c later, more = c :: later ∧ c ≠ closing) (reads : item more = .ok (first, after))
    (ends : skipGap false after = .ok (',' :: rest)) (noComma : ',' ≠ closing) :
    items closing item (fuel + 1) text =
      (items closing item fuel rest).map fun (more, rest) => (first :: more, rest) := by
  obtain ⟨c, later, rfl, notClosed⟩ := goesOn
  rw [items, skips]
  simp only [bind, Except.bind, if_neg notClosed, reads, ends, if_neg noComma, ne_eq,
    not_true_eq_false, if_false]
  rfl

end Items

theorem write_append_ne (text rest : Text) :
    ∃ c later, QuotedString.write text ++ rest = c :: later ∧ c ≠ ']' := by
  obtain ⟨quote, later, isQuote, shown⟩ := write_eq_cons text
  refine ⟨quote, later ++ rest, by rw [shown, List.cons_append], ?_⟩
  obtain rfl | rfl := isQuote <;> decide

/-- A string on a line of its own in a sequence. -/
def itemLine (text : Text) : Text := "    ".toList ++ QuotedString.write text ++ ",\n".toList

/-- The lines of a sequence are read up to the closing bracket. -/
theorem items_lines (depth : Nat) (texts : List Text) (rest : Text) {fuel : Nat}
    (enough : texts.length < fuel) :
    items ']' (value depth) fuel ('\n' :: (texts.flatMap itemLine ++ ']' :: rest)) =
      .ok (texts.map .string, rest) := by
  induction texts generalizing fuel with
  | nil =>
    obtain ⟨fuel, rfl⟩ := Nat.exists_eq_add_of_lt enough
    exact items_nil rfl
  | cons text texts ih =>
    obtain ⟨fewer, rfl⟩ := Nat.exists_eq_add_of_lt enough
    let later := texts.flatMap itemLine ++ ']' :: rest
    have line : '\n' :: ((text :: texts).flatMap itemLine ++ ']' :: rest) =
        '\n' :: ("    ".toList ++ (QuotedString.write text ++ ',' :: '\n' :: later)) := by
      simp [itemLine, later]
    have skips : skipGap false
        ('\n' :: ("    ".toList ++ (QuotedString.write text ++ ',' :: '\n' :: later))) =
          .ok (QuotedString.write text ++ ',' :: '\n' :: later) := skipGap_write text _
    have reads : value depth (QuotedString.write text ++ ',' :: '\n' :: later) =
        .ok (.string text, ',' :: '\n' :: later) := value_write depth text (by simp)
    rw [line, items_more skips (write_append_ne text _) reads rfl (by decide),
      ih (by rw [List.length_cons]; omega)]
    rfl

theorem length_le_length_flatMap_itemLine (texts : List Text) :
    texts.length ≤ (texts.flatMap itemLine).length := by
  induction texts with
  | nil => exact Nat.le_refl 0
  | cons text texts ih =>
    have notNil : 0 < (itemLine text).length := by simp [itemLine]
    rw [List.flatMap_cons, List.length_append, List.length_cons]
    omega

theorem writes_array {values : List Value} {inside : Text}
    (reads : ∀ depth fuel rest, inside.length ≤ fuel →
      items ']' (value depth) (fuel + 1) (inside ++ rest) = .ok (values, rest)) :
    Writes ('[' :: inside) (.array false values) := by
  intro rest
  have enough : inside.length ≤ (inside ++ '\n' :: rest).length := by
    rw [List.length_append]
    exact Nat.le_add_right ..
  change (items ']' (value (depthLimit - 1)) ((inside ++ '\n' :: rest).length + 1)
    (inside ++ '\n' :: rest)).bind (fun found => .ok (Value.array false found.1, found.2)) = _
  rw [reads _ _ _ enough]
  rfl

theorem writes_strings (texts : List Text) :
    Writes (Config.stringsText texts) (.array false (texts.map .string)) := by
  match texts with
  | [] => exact writes_array fun _ _ _ _ => items_nil rfl
  | [text] =>
    have written : Config.stringsText [text] = '[' :: (QuotedString.write text ++ [']']) := rfl
    rw [written]
    refine writes_array fun depth fuel rest _ => ?_
    rw [List.append_assoc, List.singleton_append]
    exact items_last (skipGap_write text _) (write_append_ne text _)
      (value_write depth text (by simp)) rfl
  | first :: second :: texts =>
    have written : Config.stringsText (first :: second :: texts) =
        '[' :: '\n' :: ((first :: second :: texts).flatMap itemLine ++ [']']) := rfl
    rw [written]
    refine writes_array fun depth fuel rest enough => ?_
    have several := length_le_length_flatMap_itemLine (first :: second :: texts)
    rw [List.length_cons, List.length_append] at enough
    rw [List.cons_append, List.append_assoc, List.singleton_append,
      items_lines depth (first :: second :: texts) rest (by omega)]

/-! ## Statements -/

/-- Statements are read from the front of a text, whatever follows it. -/
structure States (text : Text) (said : List Statement) : Prop where
  reads : ∀ fuel rest,
    statements (fuel + said.length) (text ++ rest) = (statements fuel rest).map (said ++ ·)
  /-- The text is long enough to be read to its end. -/
  length_le : said.length ≤ text.length

theorem States.nil : States [] [] where
  reads fuel rest := by
    change statements fuel rest = (statements fuel rest).map id
    exact (id_map _).symm
  length_le := Nat.le_refl 0

theorem States.append (states : States text said) (later : States more further) :
    States (text ++ more) (said ++ further) where
  reads fuel rest := by
    rw [List.append_assoc, List.length_append, Nat.add_comm said.length, ← Nat.add_assoc,
      states.reads, later.reads]
    cases statements fuel rest with
    | error => rfl
    | ok following => exact congrArg Except.ok (List.append_assoc ..).symm
  length_le := by
    have front := states.length_le
    have back := later.length_le
    rw [List.length_append, List.length_append]
    omega

theorem States.flatMap {α : Type} {write : α → Text} {say : α → List Statement} {all : List α}
    (states : ∀ item ∈ all, States (write item) (say item)) :
    States (all.flatMap write) (all.flatMap say) := by
  induction all with
  | nil => exact States.nil
  | cons item all ih =>
    rw [List.flatMap_cons, List.flatMap_cons]
    exact (states item List.mem_cons_self).append
      (ih fun other member => states other (List.mem_cons_of_mem item member))

/-- What a text states is all that is read of it if nothing follows. -/
theorem States.statements_eq (states : States text said) :
    statements (text.length + 1) text = .ok said := by
  have enough := states.length_le
  obtain ⟨fuel, fuelled⟩ : ∃ fuel, text.length + 1 = fuel + said.length :=
    ⟨text.length + 1 - said.length, by omega⟩
  have all := states.reads fuel []
  have nothing : statements fuel [] = .ok [] := by cases fuel <;> rfl
  rwa [List.append_nil, nothing, Except.map, List.append_nil, ← fuelled] at all

/-- A line states a statement that is read from it up to its end. -/
theorem states_line {line : Text} {first : Statement} (notNil : line ≠ [])
    (reads : ∀ rest, ∃ c later, skipGap false (line ++ rest) = .ok (c :: later) ∧
      statement (c :: later) = .ok (first, '\n' :: rest)) : States line [first] where
  reads fuel rest := by
    obtain ⟨c, later, skips, reads⟩ := reads rest
    rw [List.length_singleton, statements, skips]
    simp only [bind, Except.bind, reads]
    rfl
  length_le := List.length_pos_of_ne_nil notNil

/-! ## Pairs -/

/-- A text that can stand as a key without quotes. -/
def IsKey (key : Text) : Prop := key ≠ [] ∧ ∀ c ∈ key, isKeyChar c

instance (key : Text) : Decidable (IsKey key) := inferInstanceAs (Decidable (_ ∧ _))

theorem IsKey.eq_cons (isKey : IsKey key) : ∃ c later, key = c :: later ∧ isKeyChar c := by
  obtain ⟨c, later, rfl⟩ := List.exists_cons_of_ne_nil isKey.1
  exact ⟨c, later, rfl, isKey.2 c List.mem_cons_self⟩

theorem keyPart_append (isKey : IsKey key) (noKeyChar : isKeyChar c = false) (rest : Text) :
    keyPart (key ++ c :: rest) = .ok (key, c :: rest) := by
  have first : (key ++ c :: rest).takeWhile isKeyChar = key := by
    rw [List.takeWhile_append_of_pos isKey.2, List.takeWhile_cons_of_neg (by simp [noKeyChar]),
      List.append_nil]
  have unquoted : keyPart (key ++ c :: rest) =
      if key.isEmpty then .error .expectedKey
      else .ok (key, (key ++ c :: rest).drop key.length) := by
    obtain ⟨d, later, rfl, inKey⟩ := isKey.eq_cons
    have noQuote : d ≠ '"' := ne_of_isKeyChar inKey rfl
    have noApostrophe : d ≠ '\'' := ne_of_isKeyChar inKey rfl
    unfold keyPart
    split <;> simp_all
  rw [unquoted, if_neg (by simpa using isKey.1), List.drop_left]

/-- A line gives a value to a key if its text writes the value. -/
theorem states_pairLine {key : String} (isKey : IsKey key.toList) (writes : Writes text written) :
    States (Config.pairLine key text) [.pair ⟨[], key.toList, written⟩] := by
  obtain ⟨c, later, shown, inKey⟩ := isKey.eq_cons
  refine states_line (by simp [Config.pairLine]) fun rest => ?_
  let value := ' ' :: (text ++ '\n' :: rest)
  have line : Config.pairLine key text ++ rest = key.toList ++ ' ' :: '=' :: value := by
    simp [Config.pairLine, value]
  rw [line, shown, List.cons_append]
  refine ⟨c, _, skipGap_cons inKey _, ?_⟩
  rw [statement_cons inKey, ← List.cons_append, ← shown]
  have front : dottedKey (key.toList ++ ' ' :: '=' :: value).length
      (key.toList ++ ' ' :: '=' :: value) = .ok (([], key.toList), '=' :: value) := by
    rw [List.length_append, List.length_cons, ← Nat.add_assoc, dottedKey]
    have skips : skipSpaces (key.toList ++ ' ' :: '=' :: value) =
        key.toList ++ ' ' :: '=' :: value := by
      rw [shown]
      exact skipSpaces_cons inKey _
    rw [skips, keyPart_append isKey rfl]
    rfl
  have reads : Document.value depthLimit (skipSpaces value) = .ok (written, '\n' :: rest) :=
    writes rest
  rw [pair, front]
  simp only [bind, Except.bind, reads]
  rfl

/-! ## Sections -/

/-- Entries stated as pairs with plain keys. -/
def pairsOf (entries : Entries) : List Statement :=
  entries.map fun entry => .pair (Entries.plainPair entry)

/-- The tables of a sequence, each stated under a header of its own. -/
def itemsOf (outer key : Text) (tables : List Entries) : List Statement :=
  tables.flatMap fun entries => .header (Entries.itemHeader outer key) :: pairsOf entries

theorem sections_pairsOf (entries : Entries) (later : List Statement) :
    sections (pairsOf entries ++ later) =
      (entries.map Entries.plainPair ++ (sections later).1, (sections later).2) := by
  induction entries with
  | nil => rfl
  | cons entry entries ih =>
    rw [pairsOf, List.map_cons, List.cons_append, sections, ← pairsOf, ih]
    rfl

theorem sections_itemsOf (outer key : Text) (tables : List Entries) :
    sections (itemsOf outer key tables) = ([], Entries.itemSections outer key tables) := by
  induction tables with
  | nil => rfl
  | cons entries tables ih =>
    rw [itemsOf, List.flatMap_cons, List.cons_append, sections, ← itemsOf, sections_pairsOf, ih,
      List.append_nil]
    rfl

/-- The table of a text is built from what the text states. -/
theorem read_of_states (states : States text said) (noMark : text.head? ≠ some byteOrderMark) :
    read text = (do
      let root ← Entries.addPairs .header [] (sections said).1
      (sections said).2.foldlM (fun root (header, pairs) => root.addSection header pairs)
        root) := by
  simp only [read, if_neg noMark, states.statements_eq]
  rfl

end PlaybookRepair.Toml.Document
