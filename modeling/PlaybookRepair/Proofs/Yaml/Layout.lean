import PlaybookRepair.Proofs.Yaml.Phrase

/-!
# Phrases in block layout

A phrase is laid out in lines: a mapping has an entry to a line or more, a sequence an item, and what
belongs to an entry or an item stands right of it. `Lays` says that a text, whose first line starts at
the given column without its indentation, is read as the tokens of a phrase and leaves the open block
collections as they were. Layouts are put together from those of strings and empty lists.
-/

namespace PlaybookRepair.Yaml

open TokenReader

/-- After at most the given number of blank lines, the next line starts at the limit or left of
it. -/
def NextLine (most limit : Nat) (text : Text) : Prop :=
  ∃ blank width rest, '\n' :: text = lineGap blank width ++ rest ∧ StartsToken width rest ∧
    width ≤ limit ∧ blank ≤ most

/-- The spot at the first token of a line. -/
def lineSpot (text : Text) (blocks : List Nat) : Spot :=
  let line := text.dropWhile (· = '\n')
  let rest := line.dropWhile (· = ' ')
  ⟨rest, line.length - rest.length, blocks, true⟩

variable {text rest : Text} {blocks : List Nat} {most column limit : Nat} {keyAllowed : Bool}

theorem dropWhile_replicate_append (c : Char) (count : Nat) (other : text.head? ≠ some c) :
    (List.replicate count c ++ text).dropWhile (· = c) = text := by
  induction count with
  | zero =>
    cases text with
    | nil => rfl
    | cons d text =>
      have different : d ≠ c := fun same => other (same ▸ rfl)
      simp [different]
  | succ count ih => simpa [List.replicate_succ] using ih

theorem TokenReader.StartsToken.head_ne {width : Nat} (starts : StartsToken width rest) {c : Char}
    (separator : isSeparator c) : rest.head? ≠ some c := by
  intro same
  have := starts.solid c same
  simp [separator] at this

theorem TokenReader.StartsToken.append (starts : StartsToken column text) (nonempty : text ≠ []) :
    StartsToken column (text ++ rest) := by
  have head : (text ++ rest).head? = text.head? := by
    cases text with
    | nil => exact absurd rfl nonempty
    | cons c text => rfl
  exact ⟨head ▸ starts.solid, head ▸ starts.noComment, fun first => head ▸ starts.noMark first⟩

theorem lineSpot_of_gap {blank width : Nat} (gap : '\n' :: text = lineGap blank width ++ rest)
    (starts : StartsToken width rest) : lineSpot text blocks = ⟨rest, width, blocks, true⟩ := by
  have same : text = List.replicate blank '\n' ++ (List.replicate width ' ' ++ rest) := by
    simpa [lineGap, List.replicate_succ] using gap
  have first : (List.replicate width ' ' ++ rest).head? ≠ some '\n' := by
    cases width with
    | zero => simpa using starts.head_ne (by decide : isSeparator '\n')
    | succ width => simp [List.replicate_succ]
  simp [lineSpot, same, dropWhile_replicate_append '\n' blank first,
    dropWhile_replicate_append ' ' width (starts.head_ne (by decide : isSeparator ' '))]

/-- The line of an indented token is the next line. -/
theorem nextLine_of_startsToken (starts : StartsToken column rest) (left : column ≤ limit) :
    NextLine most limit (List.replicate column ' ' ++ rest) :=
  ⟨0, column, rest, rfl, starts, left, Nat.zero_le most⟩

theorem lineSpot_of_startsToken (starts : StartsToken column rest) :
    lineSpot (List.replicate column ' ' ++ rest) blocks = ⟨rest, column, blocks, true⟩ :=
  lineSpot_of_gap (rfl : _ = lineGap 0 column ++ rest) starts

theorem NextLine.mono {higher : Nat} (next : NextLine most limit text) (further : limit ≤ higher) :
    NextLine most higher text := by
  obtain ⟨blank, width, rest, gap, starts, left, few⟩ := next
  exact ⟨blank, width, rest, gap, starts, left.trans further, few⟩

/-- Below a line the innermost block collection ends if the next line stands left of it. -/
theorem NextLine.leads_close {block : Nat} (next : NextLine most limit text) (left : limit < block) :
    Leads (lineSpot text (block :: blocks)) [.blockEnd] (lineSpot text blocks) := by
  obtain ⟨blank, width, rest, gap, starts, within, -⟩ := next
  rw [lineSpot_of_gap gap starts, lineSpot_of_gap gap starts]
  exact TokenReader.leads_close (by omega) starts

/-- A token that ends its line leads to the next line. -/
theorem NextLine.leads_lineEnd (next : NextLine most limit text) (column : Nat) (blocks : List Nat)
    (keyAllowed : Bool) :
    Leads ⟨'\n' :: text, column, blocks, keyAllowed⟩ [] (lineSpot text blocks) := by
  obtain ⟨blank, width, rest, gap, starts, -, -⟩ := next
  rw [lineSpot_of_gap gap starts, gap]
  exact leads_lineGap starts

/-! ## Strings -/

/-- A string as it is written. -/
def Phrase.written (value : Text) : Phrase :=
  .string value (if InlineValue.needsQuotes value then .doubleQuoted else .plain)

/-- A faithful string resolves to itself. -/
theorem Phrase.isSound_written {value : Text} (faithful : InlineValue.IsFaithful value) :
    (Phrase.written value).IsSound 0 := by
  refine Phrase.isSound_word ?_
  unfold Word.Resolves
  by_cases quoted : InlineValue.needsQuotes value
  · simp [Scalar.value, quoted]
  · simpa [Scalar.value, quoted] using (faithful.plain (by simpa using quoted)).resolves

/-- A string at the end of a line. -/
theorem leads_written {value : Text} {block : Nat} (faithful : InlineValue.IsFaithful value)
    (inside : 0 < column) (right : block ≤ column) (optional : keyAllowed → block ≠ column)
    (next : NextLine most block text) :
    Leads ⟨InlineValue.plainOrQuoted value ++ '\n' :: text, column, block :: blocks, keyAllowed⟩
      (Phrase.written value).tokens (lineSpot text (block :: blocks)) := by
  obtain ⟨blank, width, rest, gap, starts, left, -⟩ := next
  rw [lineSpot_of_gap gap starts, gap]
  by_cases quoted : InlineValue.needsQuotes value
  · simp only [InlineValue.plainOrQuoted, Phrase.written, Phrase.string, Phrase.word, quoted,
      ↓reduceIte]
    exact leads_doubleQuoted (fun c member => (faithful.onOneLine c member).2) rfl right optional
      starts
  · have plain := faithful.isPlain (by simpa using quoted)
    simp only [InlineValue.plainOrQuoted, Phrase.written, Phrase.string, Phrase.word, quoted,
      ↓reduceIte, Bool.false_eq_true]
    exact leads_plain plain inside rfl right left optional starts

/-! ## Values of keys -/

/-- The text after the colon of a key at the given column is read as the value. -/
def Follows (most column : Nat) (text : Text) (phrase : Phrase) : Prop :=
  ∀ (place : Nat) (blocks : List Nat) (rest : Text), column < place → NextLine most column rest →
    Leads ⟨text ++ rest, place, column :: blocks, false⟩ phrase.tokens
      (lineSpot rest (column :: blocks))

theorem follows_written {value : Text} (faithful : InlineValue.IsFaithful value) :
    Follows most column (' ' :: InlineValue.plainOrQuoted value ++ ['\n']) (.written value) := by
  intro place blocks rest right next
  have string : Leads ⟨InlineValue.plainOrQuoted value ++ '\n' :: rest, place + 1,
      column :: blocks, false⟩ (Phrase.written value).tokens (lineSpot rest (column :: blocks)) :=
    leads_written faithful (by omega) (by omega) nofun next
  simpa using leads_space.trans string

/-- A text between double quotes is the string. -/
theorem follows_doubleQuoted {value : Text} (unbroken : ∀ c ∈ value, isBreak c = false) :
    Follows most column (' ' :: InlineValue.doubleQuoted value ++ ['\n'])
      (.string value .doubleQuoted) := by
  intro place blocks rest right next
  obtain ⟨blank, width, body, gap, starts, -, -⟩ := next
  have string : Leads ⟨InlineValue.doubleQuoted value ++ (lineGap blank width ++ body), place + 1,
      column :: blocks, false⟩ [.scalar value .doubleQuoted] ⟨body, width, column :: blocks, true⟩ :=
    leads_doubleQuoted unbroken rfl (by omega) nofun starts
  rw [lineSpot_of_gap gap starts]
  simpa [gap, Phrase.string, Phrase.word] using leads_space.trans string

theorem follows_empty : Follows most column " []\n".toList (.sequence []) := by
  intro place blocks rest right next
  have list : Leads ⟨'[' :: ']' :: '\n' :: rest, place + 1, column :: blocks, false⟩
      [.flowSequenceStart, .flowSequenceEnd] ⟨'\n' :: rest, place + 1 + 2, column :: blocks, false⟩ :=
    leads_emptySequence (by rintro _ ⟨⟩; omega)
  exact (leads_space.trans list).trans (next.leads_lineEnd _ _ _)

/-- A blank line that may stand below a value can be taken for a part of it. -/
theorem Follows.blank {phrase : Phrase} (follows : Follows (most + 1) column text phrase) :
    Follows most column (text ++ ['\n']) phrase := by
  intro place blocks rest right next
  obtain ⟨blank, width, body, gap, starts, left, few⟩ := next
  have below : NextLine (most + 1) column ('\n' :: rest) :=
    ⟨blank + 1, width, body, by rw [gap, lineGap_succ, List.cons_append], starts, left,
      Nat.succ_le_succ few⟩
  have same : lineSpot ('\n' :: rest) (column :: blocks) = lineSpot rest (column :: blocks) := rfl
  simpa [same] using follows place blocks ('\n' :: rest) right below

/-- The text of a phrase whose first line starts at the given column. -/
def Lays (most column : Nat) (text : Text) (phrase : Phrase) : Prop :=
  StartsToken column text ∧ text ≠ [] ∧
  ∀ (limit : Nat) (blocks : List Nat) (rest : Text), (∀ block ∈ blocks.head?, block < column) →
    limit < column → NextLine most limit rest →
    Leads ⟨text ++ rest, column, blocks, true⟩ phrase.tokens (lineSpot rest blocks)

theorem Lays.follows {phrase : Phrase} {deeper : Nat} (lays : Lays most deeper text phrase)
    (right : column < deeper) :
    Follows most column ('\n' :: List.replicate deeper ' ' ++ text) phrase := by
  intro place blocks rest _ next
  obtain ⟨starts, nonempty, leads⟩ := lays
  have here : StartsToken deeper (text ++ rest) := starts.append nonempty
  have below : NextLine most deeper (List.replicate deeper ' ' ++ (text ++ rest)) :=
    nextLine_of_startsToken here (Nat.le_refl deeper)
  have line := below.leads_lineEnd place (column :: blocks) false
  rw [lineSpot_of_startsToken here] at line
  have block := leads column (column :: blocks) rest (by rintro _ ⟨⟩; exact right) right next
  simpa using line.trans block

/-! ## Mappings -/

/-- Whether a text, with a colon behind it, is read as the key. -/
structure Word.IsWritten (key : Word) (text : Text) : Prop where
  resolves : key.Resolves
  starts : ∀ column rest, StartsToken column (text ++ rest)
  leads : ∀ (column : Nat) (blocks : List Nat) (rest : Text), atSeparator rest →
    (∀ block ∈ blocks.head?, block ≤ column) →
    Leads ⟨text ++ ':' :: rest, column, blocks, true⟩
      (opening .blockMappingStart blocks column ++ [.key, .scalar key.text key.style, .value])
      ⟨rest, column + text.length + 1, opened blocks column, false⟩

/-- A plain scalar that can be a key. -/
theorem Word.isWritten_plain {key : Text} {value : Value} (isKey : IsKey key)
    (resolves : Scalar.resolve key = .ok value) :
    (Word.mk key .plain value).IsWritten key where
  resolves := by simpa [Word.Resolves, Scalar.value] using resolves
  starts _ _ := startsToken_of_isPlain isKey.toIsPlain fun _ => isKey.head.2.2
  leads _ _ _ ends left := leads_key isKey ends left

/-- An entry of a mapping: its key as a text and as a scalar, the text from the colon on and the
value. -/
structure LaidEntry where
  key : Text
  scalar : Word := .plain key
  text : Text
  value : Phrase

namespace LaidEntry

/-- The line or lines of the entry, without the indentation of the first. -/
def lines (entry : LaidEntry) : Text := entry.key ++ ':' :: entry.text

/-- Whether the entry can stand in a mapping at the given column. -/
structure IsLaid (most column : Nat) (entry : LaidEntry) : Prop where
  isKey : entry.scalar.IsWritten entry.key
  ends : entry.text ≠ [] ∧ ∀ c ∈ entry.text.head?, isSeparator c
  follows : Follows most column entry.text entry.value

/-- The tokens of an entry. -/
def tokens (entry : LaidEntry) : List TokenKind :=
  .key :: .scalar entry.scalar.text entry.scalar.style :: .value :: entry.value.tokens

/-- The entry as one of a phrase. -/
def pair (entry : LaidEntry) : Word × Phrase := (entry.scalar, entry.value)

end LaidEntry

theorem opened_eq (left : ∀ block ∈ blocks.head?, block ≤ column) :
    ∃ outer, opened blocks column = column :: outer := by
  unfold opened
  split
  next isOpen =>
    cases blocks with
    | nil => simp at isOpen
    | cons block outer =>
      have same : block = column := Nat.le_antisymm (left block rfl) (by simpa using isOpen)
      exact ⟨outer, by rw [same]⟩
  · exact ⟨blocks, rfl⟩

theorem LaidEntry.IsLaid.startsToken {entry : LaidEntry} (laid : entry.IsLaid most column) :
    StartsToken column (entry.lines ++ rest) := by
  rw [LaidEntry.lines, List.append_assoc]
  exact laid.isKey.starts column _

/-- An entry of a mapping that is open at its column or starts there. -/
theorem LaidEntry.IsLaid.leads {entry : LaidEntry} (laid : entry.IsLaid most column)
    (left : ∀ block ∈ blocks.head?, block ≤ column) (next : NextLine most column rest) :
    Leads ⟨entry.lines ++ rest, column, blocks, true⟩
      (opening .blockMappingStart blocks column ++ entry.tokens)
      (lineSpot rest (opened blocks column)) := by
  obtain ⟨outer, isOpen⟩ := opened_eq left
  have ends : atSeparator (entry.text ++ rest) := by
    cases text : entry.text with
    | nil => exact absurd text laid.ends.1
    | cons c more => exact laid.ends.2 c (by simp [text])
  have key := laid.isKey.leads column blocks _ ends left
  have value := laid.follows (column + entry.key.length + 1) outer rest (by omega) next
  rw [isOpen] at key ⊢
  simpa [LaidEntry.lines, LaidEntry.tokens] using key.trans value

/-- Texts under each other at a column, the first one without its indentation. -/
def hanging (column : Nat) : List Text → Text
  | [] => []
  | first :: later => first ++ later.flatMap (List.replicate column ' ' ++ ·)

theorem nextLine_flatMap {α : Type} {parts : List α} {lines : α → Text}
    (starts : ∀ part ∈ parts, ∀ rest, StartsToken column (lines part ++ rest))
    (next : NextLine most column rest) :
    NextLine most column (parts.flatMap (fun part => List.replicate column ' ' ++ lines part) ++ rest) := by
  cases parts with
  | nil => exact next
  | cons part parts =>
    simp only [List.flatMap_cons, List.append_assoc]
    exact nextLine_of_startsToken (starts part List.mem_cons_self _) (Nat.le_refl column)

/-- The further parts of a block collection that is open at their column. -/
theorem leads_parts {α : Type} {parts : List α} {lines : α → Text} {tokens : α → List TokenKind}
    (starts : ∀ part ∈ parts, ∀ rest, StartsToken column (lines part ++ rest))
    (leads : ∀ part ∈ parts, ∀ rest, NextLine most column rest →
      Leads ⟨lines part ++ rest, column, blocks, true⟩ (tokens part) (lineSpot rest blocks))
    (next : NextLine most column rest) :
    Leads
      (lineSpot (parts.flatMap (fun part => List.replicate column ' ' ++ lines part) ++ rest) blocks)
      (parts.flatMap tokens) (lineSpot rest blocks) := by
  induction parts with
  | nil => exact .refl _
  | cons part parts ih =>
    have laterStarts : ∀ other ∈ parts, ∀ rest, StartsToken column (lines other ++ rest) :=
      fun other member => starts other (List.mem_cons_of_mem part member)
    have later := ih laterStarts fun other member => leads other (List.mem_cons_of_mem part member)
    have here := leads part List.mem_cons_self _ (nextLine_flatMap laterStarts next)
    simp only [List.flatMap_cons, List.append_assoc]
    rw [lineSpot_of_startsToken (starts part List.mem_cons_self _)]
    exact here.trans later

/-- A block collection whose first part opens it at a column and whose further parts follow. It
stays open. -/
theorem leads_openCollection {α : Type} {first : α} {parts : List α} {lines : α → Text}
    {tokens : α → List TokenKind} {kind : TokenKind}
    (starts : ∀ part ∈ first :: parts, ∀ rest, StartsToken column (lines part ++ rest))
    (leads : ∀ part ∈ first :: parts, ∀ blocks rest, (∀ block ∈ blocks.head?, block ≤ column) →
      NextLine most column rest →
      Leads ⟨lines part ++ rest, column, blocks, true⟩
        (opening kind blocks column ++ tokens part) (lineSpot rest (opened blocks column)))
    (outside : ∀ block ∈ blocks.head?, block < column) (next : NextLine most column rest) :
    Leads ⟨hanging column ((first :: parts).map lines) ++ rest, column, blocks, true⟩
      (kind :: (first :: parts).flatMap tokens) (lineSpot rest (column :: blocks)) := by
  have laterStarts : ∀ part ∈ parts, ∀ rest, StartsToken column (lines part ++ rest) :=
    fun part member => starts part (List.mem_cons_of_mem first member)
  have closed : blocks.head?.any (column ≤ ·) = false := by
    cases blocks with
    | nil => rfl
    | cons block outer => simpa using outside block rfl
  have opens := leads first List.mem_cons_self blocks _
    (fun block head => Nat.le_of_lt (outside block head)) (nextLine_flatMap laterStarts next)
  have further : Leads
      (lineSpot (parts.flatMap (fun part => List.replicate column ' ' ++ lines part) ++ rest)
        (column :: blocks))
      (parts.flatMap tokens) (lineSpot rest (column :: blocks)) := by
    refine leads_parts laterStarts (fun part member rest next => ?_) next
    have := leads part (List.mem_cons_of_mem first member) (column :: blocks) rest (by simp) next
    simpa [opening, opened] using this
  simp only [opening, opened, closed, Bool.false_eq_true, ↓reduceIte] at opens
  simpa [hanging, List.flatMap_map] using opens.trans further

/-- A block collection ends before a line left of its column. -/
theorem NextLine.leads_collection {first : Spot} {tokens : List TokenKind} {kind : TokenKind}
    (collection : Leads first (kind :: tokens) (lineSpot rest (column :: blocks)))
    (next : NextLine most limit rest) (left : limit < column) :
    Leads first (kind :: (tokens ++ [.blockEnd])) (lineSpot rest blocks) :=
  collection.trans (next.leads_close left)

/-- The entries of a mapping under each other. -/
theorem leads_entries {entries : List LaidEntry} (laid : ∀ entry ∈ entries, entry.IsLaid most column)
    (nonempty : entries ≠ []) (outside : ∀ block ∈ blocks.head?, block < column)
    (next : NextLine most column rest) :
    Leads ⟨hanging column (entries.map LaidEntry.lines) ++ rest, column, blocks, true⟩
      (.blockMappingStart :: entries.flatMap LaidEntry.tokens)
      (lineSpot rest (column :: blocks)) := by
  obtain ⟨first, parts, rfl⟩ := List.exists_cons_of_ne_nil nonempty
  exact leads_openCollection (fun part member _ => (laid part member).startsToken)
    (fun part member _ _ left next => (laid part member).leads left next) outside next

theorem startsToken_entries {entries : List LaidEntry}
    (laid : ∀ entry ∈ entries, entry.IsLaid most column) (nonempty : entries ≠ []) :
    StartsToken column (hanging column (entries.map LaidEntry.lines)) := by
  obtain ⟨first, parts, rfl⟩ := List.exists_cons_of_ne_nil nonempty
  exact (laid first List.mem_cons_self).startsToken

/-- Entries under each other are a mapping. -/
theorem lays_mapping {entries : List LaidEntry} (laid : ∀ entry ∈ entries, entry.IsLaid most column)
    (nonempty : entries ≠ []) :
    Lays most column (hanging column (entries.map LaidEntry.lines))
      (.mapping (entries.map LaidEntry.pair)) := by
  refine ⟨startsToken_entries laid nonempty, ?_, fun limit blocks rest outside left next => ?_⟩
  · obtain ⟨first, parts, rfl⟩ := List.exists_cons_of_ne_nil nonempty
    simp [hanging, LaidEntry.lines]
  · have isOpen := leads_entries laid nonempty outside (next.mono (Nat.le_of_lt left))
    simp only [Phrase.mapping, List.flatMap_map]
    exact next.leads_collection isOpen left

/-- A mapping of entries that can stand under each other is sound if no two keys are the same. -/
theorem isSound_entries {height : Nat} {entries : List LaidEntry}
    (laid : ∀ entry ∈ entries, entry.IsLaid most column)
    (distinct : entries.Pairwise fun first later =>
      first.scalar.value.same later.scalar.value = false)
    (sound : ∀ entry ∈ entries, entry.value.IsValue height) :
    (Phrase.mapping (entries.map LaidEntry.pair)).IsSound (height + 1) := by
  refine Phrase.isSound_mapping ?_ (List.pairwise_map.mpr distinct) ?_
  · simpa [LaidEntry.pair] using fun entry member => (laid entry member).isKey.resolves
  · simpa [LaidEntry.pair] using sound

/-! ## Sequences -/

/-- An item of a sequence: the text after its hyphen and a space, and the node. -/
structure LaidItem where
  text : Text
  value : Phrase

namespace LaidItem

/-- The line or lines of the item, without the indentation of the first. -/
def lines (item : LaidItem) : Text := '-' :: ' ' :: item.text

/-- Whether the item can stand in a sequence at the given column. -/
def IsLaid (most column : Nat) (item : LaidItem) : Prop :=
  ∀ (blocks : List Nat) (rest : Text), NextLine most column rest →
    Leads ⟨item.text ++ rest, column + 2, column :: blocks, true⟩ item.value.tokens
      (lineSpot rest (column :: blocks))

theorem isLaid_written {value : Text} (faithful : InlineValue.IsFaithful value) :
    IsLaid most column ⟨InlineValue.plainOrQuoted value ++ ['\n'], .written value⟩ := by
  intro blocks rest next
  have string : Leads ⟨InlineValue.plainOrQuoted value ++ '\n' :: rest, column + 2,
      column :: blocks, true⟩ (Phrase.written value).tokens (lineSpot rest (column :: blocks)) :=
    leads_written faithful (by omega) (by omega) (fun _ => by omega) next
  simpa using string

end LaidItem

theorem Lays.isLaid {phrase : Phrase} (lays : Lays most (column + 2) text phrase) :
    LaidItem.IsLaid most column ⟨text, phrase⟩ := by
  intro blocks rest next
  exact lays.2.2 column (column :: blocks) rest (by rintro _ ⟨⟩; omega) (by omega) next

/-- Items under each other are a sequence. -/
theorem lays_sequence {items : List LaidItem} (inside : 0 < column)
    (laid : ∀ item ∈ items, item.IsLaid most column) (nonempty : items ≠ []) :
    Lays most column (hanging column (items.map LaidItem.lines))
      (.sequence (items.map LaidItem.value)) := by
  obtain ⟨first, parts, rfl⟩ := List.exists_cons_of_ne_nil nonempty
  have starts : ∀ (text : Text), StartsToken column ('-' :: text) := fun text =>
    ⟨by rintro _ ⟨⟩; decide, by rintro ⟨⟩, by rintro _ ⟨⟩⟩
  have leads : ∀ part ∈ first :: parts, ∀ blocks rest, (∀ block ∈ blocks.head?, block ≤ column) →
      NextLine most column rest →
      Leads ⟨part.lines ++ rest, column, blocks, true⟩
        (opening .blockSequenceStart blocks column ++ (.blockEntry :: part.value.tokens))
        (lineSpot rest (opened blocks column)) := by
    intro part member blocks rest left next
    obtain ⟨outer, isOpen⟩ := opened_eq left
    have dash : Leads ⟨'-' :: (' ' :: part.text ++ rest), column, blocks, true⟩ _ _ :=
      leads_dash rfl inside left
    have item := laid part member outer rest next
    rw [isOpen] at dash ⊢
    simpa [LaidItem.lines] using (dash.trans leads_space).trans item
  refine ⟨starts _, ?_, fun limit blocks rest outside left next => ?_⟩
  · simp [hanging, LaidItem.lines]
  · have isOpen := leads_openCollection (fun _ _ _ => starts _) leads outside
      (next.mono (Nat.le_of_lt left))
    simpa [Phrase.sequence, List.flatMap_map] using next.leads_collection isOpen left

/-- A key and the items of a sequence below it, or an empty list behind it. -/
def laidSequence (column : Nat) (key : Text) (items : List LaidItem) : LaidEntry where
  key
  text :=
    if items.isEmpty then " []\n".toList
    else '\n' :: List.replicate (column + 2) ' ' ++
      hanging (column + 2) (items.map LaidItem.lines)
  value := .sequence (items.map LaidItem.value)

theorem isLaid_laidSequence {key : Text} {items : List LaidItem}
    (isKey : (Word.plain key).IsWritten key)
    (laid : ∀ item ∈ items, item.IsLaid most (column + 2)) :
    (laidSequence column key items).IsLaid most column := by
  cases items with
  | nil => exact ⟨isKey, ⟨by simp [laidSequence], by rintro _ ⟨⟩; decide⟩, follows_empty⟩
  | cons item items =>
    have lays := lays_sequence (Nat.succ_pos _) laid (List.cons_ne_nil item items)
    exact ⟨isKey, ⟨by simp [laidSequence], by rintro _ ⟨⟩; decide⟩, lays.follows (by omega)⟩

/-- A key and a string behind it. -/
def laidString (key value : Text) : LaidEntry where
  key
  text := ' ' :: InlineValue.plainOrQuoted value ++ ['\n']
  value := .written value

theorem isLaid_laidString {key value : Text} (isKey : (Word.plain key).IsWritten key)
    (faithful : InlineValue.IsFaithful value) : (laidString key value).IsLaid most column :=
  ⟨isKey, ⟨by simp [laidString], by rintro _ ⟨⟩; decide⟩, follows_written faithful⟩

/-! ## Documents -/

theorem allowed_unlines {lines : List Text} (allowed : ∀ line ∈ lines, ∀ c ∈ line, isAllowed c) :
    ∀ c ∈ Text.unlines lines, isAllowed c := by
  intro c member
  obtain ⟨line, among, held⟩ := List.mem_flatMap.mp member
  obtain held | rfl : c ∈ line ∨ c = '\n' := by simpa using held
  · exact allowed line among c held
  · decide

/-- A document sign and the entries of a mapping under each other are read as the mapping. -/
theorem documents_eq_of_isLaid {height : Nat} {entries : List LaidEntry}
    (laid : ∀ entry ∈ entries, entry.IsLaid most 0) (nonempty : entries ≠ [])
    (sound : (Phrase.mapping (entries.map LaidEntry.pair)).IsSound height)
    (low : height ≤ maxDepth)
    (allowed : ∀ c ∈ hanging 0 (entries.map LaidEntry.lines), isAllowed c) :
    ∃ document,
      documents ("---\n".toList ++ hanging 0 (entries.map LaidEntry.lines)) = [document] ∧
      document.value =
        .ok (Phrase.mapping (entries.map LaidEntry.pair)).value := by
  have starts := startsToken_entries laid nonempty
  have line : NextLine most 0 (hanging 0 (entries.map LaidEntry.lines)) :=
    nextLine_of_startsToken starts (Nat.le_refl 0)
  have spot : lineSpot (hanging 0 (entries.map LaidEntry.lines)) [] =
      ⟨hanging 0 (entries.map LaidEntry.lines), 0, [], true⟩ := lineSpot_of_startsToken starts
  have sign := (leads_documentStart rfl).trans (line.leads_lineEnd 3 [] false)
  rw [spot] at sign
  have ended : NextLine most 0 [] := ⟨0, 0, [], rfl, ⟨nofun, nofun, nofun⟩, Nat.le_refl 0, Nat.zero_le most⟩
  have body := leads_entries laid nonempty (nofun : ∀ block ∈ ([] : List Nat).head?, block < 0) ended
  rw [List.append_nil] at body
  refine sound.documents_eq low ?_ (sign.trans body) ?_
  · simpa [isAllowed] using allowed
  · simp only [Phrase.mapping, List.flatMap_map]
    rfl

end PlaybookRepair.Yaml
