import PlaybookRepair.Proofs.Tidy.Line
import PlaybookRepair.Proofs.Yaml.Scalar

/-!
# Tokens of block collections, line by line

Between two tokens that cannot become keys a reader of tokens is known by its text, its column, the
columns of the open block collections and whether a key may start. `Leads` says that from one such
spot the tokens of the given kinds lead to another one; spots are passed one piece of a line at a
time, and a text is read by joining the pieces.
-/

namespace PlaybookRepair.Yaml

theorem Reading.prepend_append {α : Type} (first last : List α) (rest : Reading α) :
    Reading.prepend (first ++ last) rest = .prepend first (.prepend last rest) := by
  simp only [prepend, List.foldr_append]

theorem Reading.length_prepend {α : Type} (items : List α) (rest : Reading α) :
    (Reading.prepend items rest).length = items.length + rest.length := by
  induction items with
  | nil => simp [prepend]
  | cons item items ih =>
    simp only [prepend, List.foldr_cons, length, List.length_cons] at ih ⊢
    omega

namespace TokenReader

/-- Where a reader outside of flow collections stands when no token of its queue may become a
key. -/
structure Spot where
  text : Text
  column : Nat
  blocks : List Nat
  keyAllowed : Bool

/-- What a reader has behind it. -/
structure Past where
  index : Nat
  line : Nat
  delivered : Nat
  queue : List Token

/-- The reader at a spot. -/
def Spot.reader (spot : Spot) (past : Past) : TokenReader where
  cursor := ⟨spot.text, ⟨past.index, past.line, spot.column⟩⟩
  queue := past.queue
  delivered := past.delivered
  blocks := spot.blocks
  keyAllowed := spot.keyAllowed

/-- From the first spot tokens of the given kinds lead to the last one, whatever the reader has
behind it. Every step reads a character. -/
def Leads (first : Spot) (kinds : List TokenKind) (last : Spot) : Prop :=
  ∀ past : Past, ∃ (steps : Nat) (tokens : List Token) (next : Past),
    steps + last.text.length ≤ first.text.length ∧
      (tokens ++ next.queue).map Token.kind = past.queue.map Token.kind ++ kinds ∧
      ∀ fuel, run (steps + fuel + 1) (first.reader past) =
        .prepend tokens (run (fuel + 1) (last.reader next))

namespace Leads

variable {first middle last : Spot} {kinds more : List TokenKind}

theorem refl (spot : Spot) : Leads spot [] spot := by
  intro past
  refine ⟨0, [], past, by omega, by simp, fun fuel => ?_⟩
  rw [Nat.zero_add]
  rfl

theorem trans (start : Leads first kinds middle) (finish : Leads middle more last) :
    Leads first (kinds ++ more) last := by
  intro past
  obtain ⟨steps, tokens, next, short, said, leads⟩ := start past
  obtain ⟨laterSteps, laterTokens, end_, laterShort, laterSaid, laterLeads⟩ := finish next
  refine ⟨steps + laterSteps, tokens ++ laterTokens, end_, by omega, ?_, fun fuel => ?_⟩
  · rw [List.append_assoc, List.map_append, laterSaid, ← List.append_assoc, ← List.map_append, said,
      List.append_assoc]
  · rw [Nat.add_assoc steps, leads, laterLeads, Reading.prepend_append]

end Leads

/-- Where the next token starts, nothing is skipped. -/
structure StartsToken (column : Nat) (text : Text) : Prop where
  solid : ∀ c ∈ text.head?, isSeparator c = false
  noComment : text.head? ≠ some '#'
  noMark : column = 0 → text.head? ≠ some '\uFEFF'

theorem skipToToken_eq_self {inFlow keyAllowed : Bool} {text : Text} {mark : Mark}
    (starts : StartsToken mark.column text) :
    skipToToken inFlow false keyAllowed text mark = (⟨text, mark⟩, keyAllowed) := by
  cases text with
  | nil => rfl
  | cons c rest =>
    have solid := starts.solid c rfl
    have comment : c ≠ '#' := fun same => starts.noComment (same ▸ rfl)
    have bom : ¬(c = '\uFEFF' ∧ mark.column = 0) := fun both =>
      starts.noMark both.2 (both.1 ▸ rfl)
    simp only [isSeparator, isSpace, Bool.or_eq_false_iff, decide_eq_false_iff_not] at solid
    rw [skipToToken]
    · simp [solid, comment, bom]
    · rintro _ rfl _
      exact absurd solid.2 (by decide)

variable {spot : Spot} {past : Past} {text rest : Text} {column : Nat} {blocks : List Nat}
  {keyAllowed : Bool}

/-- At the start of a token, with no stale candidate and no block collection right of it, the next
step is that token. -/
theorem step_eq_readToken (reader : TokenReader)
    (starts : StartsToken reader.mark.column reader.cursor.rest)
    (fresh : reader.dropStale = .ok reader)
    (left : ∀ block ∈ reader.blocks.head?, block ≤ reader.mark.column) :
    reader.step = reader.readToken := by
  have stays : reader.blocks.takeWhile (reader.mark.column < ·) = [] ∧
      reader.blocks.dropWhile (reader.mark.column < ·) = reader.blocks := by
    cases opened : reader.blocks with
    | nil => exact ⟨rfl, rfl⟩
    | cons block outer =>
      have : ¬reader.mark.column < block := Nat.not_lt.mpr (left block (by simp [opened]))
      simp [this]
  have found : skipToToken reader.inFlow false reader.keyAllowed reader.cursor.rest reader.mark =
      (reader.cursor, reader.keyAllowed) := skipToToken_eq_self starts
  have here : reader.toToken = reader := by
    simp only [toToken, found]
  have closed : reader.closeBlocks (fun block => reader.mark.column < block) = reader := by
    simp [closeBlocks, stays]
  simp only [step, here, fresh, bind, Except.bind]
  exact congrArg readToken closed

theorem dropStale_eq_self {reader : TokenReader} (block : reader.outer = [])
    (fresh : ∀ key ∈ reader.candidate, isStale reader.mark key = false) :
    reader.dropStale = .ok reader := by
  obtain ⟨cursor, queue, delivered, blocks, candidate, outer, keyAllowed, finished⟩ := reader
  cases block
  cases candidate with
  | none => rfl
  | some key =>
    have kept := fresh key rfl
    simp only [TokenReader.mark] at kept
    simp [dropStale, refresh, TokenReader.mark, kept, bind, Except.bind, pure, Except.pure]

theorem run_succ {reader next rest : TokenReader} {sent : List Token} (fuel : Nat)
    (read : reader.step = .ok next) (delivers : next.deliver = .ok (sent, rest))
    (unfinished : rest.finished = false) :
    run (fuel + 1) reader = .prepend sent (run fuel rest) := by
  simp only [run, read, delivers, unfinished, Bool.false_eq_true, ↓reduceIte]

/-- Without a candidate, or with a stale one that need not be a key, all tokens are delivered. -/
theorem deliver_of_stale {reader : TokenReader} (block : reader.outer = [])
    (old : ∀ key ∈ reader.candidate, isStale reader.mark key ∧ key.required = false) :
    reader.deliver = .ok (reader.queue,
      { reader with
        queue := []
        delivered := reader.delivered + reader.queue.length
        candidate := none }) := by
  obtain ⟨cursor, queue, delivered, blocks, candidate, outer, keyAllowed, finished⟩ := reader
  cases block
  cases candidate with
  | none => simp [deliver, dropStale, refresh, nextNumber, bind, Except.bind, pure, Except.pure]
  | some key =>
    obtain ⟨stale, optional⟩ := old key rfl
    simp only [TokenReader.mark] at stale
    simp [deliver, dropStale, refresh, giveUp, nextNumber, TokenReader.mark, stale, optional, bind,
      Except.bind, pure, Except.pure]

/-- The tokens before a candidate are delivered. -/
theorem deliver_of_key (reader : TokenReader) (ready : Nat) {key : KeyCandidate}
    (block : reader.outer = []) (found : reader.candidate = some key)
    (fresh : isStale reader.mark key = false) (number : key.tokenNumber = reader.delivered + ready) :
    reader.deliver = .ok (reader.queue.take ready,
      { reader with queue := reader.queue.drop ready, delivered := reader.delivered + ready }) := by
  have kept : reader.dropStale = .ok reader := by
    refine dropStale_eq_self block ?_
    rw [found]
    rintro _ ⟨⟩
    exact fresh
  simp [deliver, kept, found, block, number, bind, Except.bind, pure, Except.pure]

/-- A document sign starts with its sign. -/
theorem isDocumentSign_eq_false {sign c : Char} (other : c ≠ sign) :
    isDocumentSign sign (c :: rest) = false := by
  unfold isDocumentSign
  split
  next same =>
    cases same
    simp only [other, decide_false, Bool.false_and]
  · rfl

/-- A plain scalar is the token at a character that is no sign. -/
theorem readToken_of_not_sign {reader : TokenReader} {c : Char}
    (text : reader.cursor.rest = c :: rest) (solid : isSeparator c = false)
    (plain : indicators.contains c = false) (point : reader.mark.column = 0 → c ≠ '.') :
    reader.readToken = reader.readPlainScalar := by
  have other : ∀ sign, indicators.contains sign → c ≠ sign := by
    rintro sign member rfl
    simp only [plain, Bool.false_eq_true] at member
  have stop : (decide (reader.mark.column = 0) && isDocumentSign '.' (c :: rest)) = false := by
    by_cases atStart : reader.mark.column = 0
    · simp only [isDocumentSign_eq_false (point atStart), Bool.and_false]
    · simp only [atStart, decide_false, Bool.false_and]
  have starts : startsPlainScalar reader.inFlow c rest := by
    simp only [startsPlainScalar, solid, plain, Bool.or_self, Bool.not_false, Bool.true_or]
  rw [readToken, text]
  simp only [stop, starts, isDocumentSign_eq_false (other '-' (by decide)), other '%' (by decide),
    other '[' (by decide), other '{' (by decide), other ']' (by decide), other '}' (by decide),
    other ',' (by decide), other '-' (by decide), other '?' (by decide), other ':' (by decide),
    other '*' (by decide), other '&' (by decide), other '!' (by decide), other '|' (by decide),
    other '>' (by decide), other '\'' (by decide), other '"' (by decide), decide_false,
    Bool.false_and, Bool.and_false, Bool.false_eq_true, ↓reduceIte]

/-- In block context a plain scalar is the token where one starts. -/
theorem readToken_of_plain {reader : TokenReader} {c : Char}
    (text : reader.cursor.rest = c :: rest) (solid : isSeparator c = false)
    (starts : PlainScalar.Starts c rest) (block : reader.inFlow = false)
    (point : reader.mark.column = 0 → c ≠ '.' ∧ c ≠ '-') :
    reader.readToken = reader.readPlainScalar := by
  obtain plain | ⟨sign, ends⟩ := starts
  · exact readToken_of_not_sign text solid plain fun start => (point start).1
  · have space : rest.head?.any isSpace = false := by
      cases rest with
      | nil => rfl
      | cons d rest => exact (Bool.or_eq_false_iff.mp ends).1
    have hyphen : ¬(reader.mark.column = 0 ∧ c = '-') := fun both => (point both.1).2 both.2
    rw [readToken, text]
    rcases sign with rfl | rfl | rfl
    · have inside : ¬reader.mark.column = 0 := fun start => hyphen ⟨start, rfl⟩
      simp [inside, startsPlainScalar, ends, space]
    · simp [isDocumentSign_eq_false, startsPlainScalar, ends, block]
    · simp [isDocumentSign_eq_false, startsPlainScalar, ends, block]

/-- The token that starts a block collection at a column, unless one is open there. -/
def opening (kind : TokenKind) (blocks : List Nat) (column : Nat) : List TokenKind :=
  if blocks.head?.any (column ≤ ·) then [] else [kind]

/-- The open block collections after a collection at a column has started. -/
def opened (blocks : List Nat) (column : Nat) : List Nat :=
  if blocks.head?.any (column ≤ ·) then blocks else column :: blocks

/-- What a text has to be in order to be a key on a line of a block mapping. -/
structure IsKey (key : Text) : Prop extends PlainScalar.IsPlain key where
  short : key.length ≤ maxKeyLength
  /-- At the start of a line it is no document sign and no byte order mark. -/
  head : key.head? ≠ some '.' ∧ key.head? ≠ some '-' ∧ key.head? ≠ some '\uFEFF'

theorem startsToken_of_isPlain {value : Text} (plain : PlainScalar.IsPlain value)
    (noMark : column = 0 → value.head? ≠ some '\uFEFF') : StartsToken column (value ++ rest) := by
  obtain ⟨c, tail, starts, solid, start⟩ := plain.starts
  subst starts
  refine ⟨?_, ?_, noMark⟩
  · rintro _ ⟨⟩
    exact solid
  · rintro ⟨⟩
    obtain indicator | ⟨sign, -⟩ := start
    · exact absurd indicator (by decide)
    · exact absurd sign (by decide)

/-- A name can be written as a key. -/
theorem isKey_of_isName {key : Text} (named : KeyedLine.isName key)
    (short : key.length ≤ maxKeyLength) : IsKey key := by
  cases key with
  | nil => cases named
  | cons c tail =>
    obtain ⟨start, chars⟩ := Bool.and_eq_true_iff.mp named
    have other : ∀ d, KeyedLine.isKeyChar d → ∀ sign, KeyedLine.isKeyChar sign = false →
        d ≠ sign := by
      rintro d inside sign outside rfl
      simp only [outside, Bool.false_eq_true] at inside
    have first : KeyedLine.isKeyChar c := by
      have ascii := (Tidy.code_of_isKeyStart start).2
      simp only [KeyedLine.isKeyStart, Bool.or_eq_true, decide_eq_true_eq] at start
      simp only [KeyedLine.isKeyChar, Text.isWordChar, ascii, ↓reduceIte, Char.isAlphanum,
        Bool.or_eq_true, beq_iff_eq]
      exact .inl (.inl (.inl (start.imp_left .inl)))
    have all : ∀ d ∈ c :: tail, KeyedLine.isKeyChar d := by
      rintro d (_ | ⟨_, member⟩)
      · exact first
      · exact List.all_eq_true.mp chars d member
    have solid : ∀ d, KeyedLine.isKeyChar d → isSpace d = false ∧ isBreak d = false := by
      intro d inside
      have ne := other d inside
      simp [isSpace, isBreak, ne ' ' (by decide), ne '\t' (by decide), ne '\n' (by decide),
        ne '\r' (by decide), ne '\u0085' (by decide +kernel), ne '\u2028' (by decide +kernel),
        ne '\u2029' (by decide +kernel)]
    have continues : ∀ text : Text, (∀ d ∈ text, KeyedLine.isKeyChar d) →
        PlainScalar.Continues false text := by
      intro text inside
      induction text with
      | nil => trivial
      | cons d text ih =>
        have here := inside d List.mem_cons_self
        have gap := (solid d here).1
        refine ⟨(solid d here).2, fun colon => ?_, fun _ => rfl, ?_⟩
        · exact absurd colon (other d here ':' (by decide))
        · rw [gap]
          exact ih fun e member => inside e (List.mem_cons_of_mem d member)
    have notStart : ∀ sign, KeyedLine.isKeyStart sign = false → c ≠ sign := by
      rintro sign outside rfl
      simp only [outside, Bool.false_eq_true] at start
    refine ⟨⟨continues _ all, ?_, c, tail, rfl, ?_, .inl ?_⟩, short, ?_, ?_, ?_⟩
    · intro last ends
      exact (solid last (all last (List.mem_of_getLast? ends))).1
    · simp [isSeparator, solid c first]
    · have signs : ∀ sign ∈ indicators, KeyedLine.isKeyStart sign = false := by decide
      rw [Bool.eq_false_iff]
      intro among
      exact notStart c (signs c (List.contains_iff_mem.mp among)) rfl
    · simpa using notStart '.' (by decide)
    · simpa using notStart '-' (by decide)
    · simpa using notStart '\uFEFF' (by decide +kernel)

theorem readToken_colon {reader : TokenReader} (text : reader.cursor.rest = ':' :: rest)
    (ends : atSeparator rest) : reader.readToken = reader.readValue := by
  rw [readToken, text]
  simp only [ends, isDocumentSign_eq_false (by decide : ':' ≠ '-'),
    isDocumentSign_eq_false (by decide : ':' ≠ '.'), (by decide : ¬ ':' = '%'),
    (by decide : ¬ ':' = '['), (by decide : ¬ ':' = '{'), (by decide : ¬ ':' = ']'),
    (by decide : ¬ ':' = '}'), (by decide : ¬ ':' = ','), (by decide : ¬ ':' = '-'),
    (by decide : ¬ ':' = '?'), decide_false, decide_true, Bool.and_false, Bool.false_and,
    Bool.or_true, Bool.and_self, Bool.false_eq_true, ↓reduceIte]

/-- The colon after a key that waits at the head of the queue. -/
theorem readValue_of_key {reader : TokenReader} {key : KeyCandidate}
    (found : reader.candidate = some key) (number : key.tokenNumber = reader.delivered)
    (block : reader.outer = []) :
    reader.readValue = .ok
      { reader with
        cursor := reader.cursor.advance 1
        queue := (opening .blockMappingStart reader.blocks key.mark.column).map (⟨·, key.mark⟩) ++
          ⟨.key, key.mark⟩ :: reader.queue ++ [⟨.value, reader.mark⟩]
        blocks := opened reader.blocks key.mark.column
        candidate := none
        keyAllowed := false } := by
  obtain ⟨cursor, queue, delivered, blocks, candidate, outer, keyAllowed, finished⟩ := reader
  cases found
  cases block
  cases number
  by_cases isOpen : blocks.head?.any (key.mark.column ≤ ·) <;>
    simp [readValue, insert, openBlock, inFlow, opening, opened, isOpen, pushSign, push,
      TokenReader.mark]

/-- The reader after a token on one line that may become a key. -/
def Spot.keyReader (spot : Spot) (past : Past) (kind : TokenKind) (width : Nat) (rest : Text) :
    TokenReader :=
  let mark : Mark := ⟨past.index, past.line, spot.column⟩
  { cursor := ⟨rest, mark.advance width⟩
    queue := past.queue ++ [⟨kind, mark⟩]
    delivered := past.delivered
    blocks := spot.blocks
    candidate := some
      { tokenNumber := past.delivered + past.queue.length
        required := decide (spot.blocks.head? = some spot.column)
        mark }
    keyAllowed := false }

/-- A token that may become a key is kept while the line goes on; the tokens before it are
delivered. -/
theorem deliver_keyReader {kind : TokenKind} {width : Nat} (short : width ≤ maxKeyLength) :
    (spot.keyReader past kind width rest).deliver = .ok (past.queue,
      { spot.keyReader past kind width rest with
        queue := [⟨kind, ⟨past.index, past.line, spot.column⟩⟩]
        delivered := past.delivered + past.queue.length }) := by
  rw [deliver_of_key _ past.queue.length rfl rfl
    (by simpa [isStale, Spot.keyReader, Mark.advance, TokenReader.mark] using short) rfl]
  simp [Spot.keyReader]

/-- A token that may become a key and the colon after it. -/
theorem leads_key_of_readToken {key : Text} {kind : TokenKind} (nonempty : key ≠ [])
    (short : key.length ≤ maxKeyLength) (ends : atSeparator rest)
    (starts : StartsToken column (key ++ ':' :: rest))
    (left : ∀ block ∈ blocks.head?, block ≤ column)
    (reads : ∀ past, readToken (Spot.reader ⟨key ++ ':' :: rest, column, blocks, true⟩ past) =
      .ok (Spot.keyReader ⟨key ++ ':' :: rest, column, blocks, true⟩ past kind key.length
        (':' :: rest))) :
    Leads ⟨key ++ ':' :: rest, column, blocks, true⟩
      (opening .blockMappingStart blocks column ++ [.key, kind, .value])
      ⟨rest, column + key.length + 1, opened blocks column, false⟩ := by
  intro past
  let spot : Spot := ⟨key ++ ':' :: rest, column, blocks, true⟩
  let mark : Mark := ⟨past.index, past.line, column⟩
  let said : List Token := (opening .blockMappingStart blocks column).map (⟨·, mark⟩) ++
    ⟨.key, mark⟩ :: [⟨kind, mark⟩] ++ [⟨.value, mark.advance key.length⟩]
  let held : TokenReader :=
    { spot.keyReader past kind key.length (':' :: rest) with
      queue := [⟨kind, mark⟩]
      delivered := past.delivered + past.queue.length }
  let decided : TokenReader :=
    { cursor := ⟨rest, (mark.advance key.length).advance 1⟩
      queue := said
      delivered := past.delivered + past.queue.length
      blocks := opened blocks column
      keyAllowed := false }
  have first : (spot.reader past).step = .ok (spot.keyReader past kind key.length (':' :: rest)) :=
    (step_eq_readToken (spot.reader past) starts rfl left).trans (reads past)
  have second : held.step = .ok decided := by
    have colon : StartsToken held.mark.column held.cursor.rest :=
      ⟨by rintro _ ⟨⟩; decide, by rintro ⟨⟩, by rintro _ ⟨⟩⟩
    have fresh : held.dropStale = .ok held := by
      refine dropStale_eq_self rfl ?_
      rintro _ ⟨⟩
      simpa [isStale, held, Spot.keyReader, Mark.advance, TokenReader.mark] using short
    have stays : ∀ block ∈ held.blocks.head?, block ≤ held.mark.column := fun block first =>
      (left block first).trans (Nat.le_add_right _ _)
    rw [step_eq_readToken held colon fresh stays, readToken_colon rfl ends, readValue_of_key rfl rfl rfl]
    rfl
  have sent : decided.deliver = .ok (said, { decided with
      queue := []
      delivered := past.delivered + past.queue.length + said.length }) :=
    deliver_of_stale rfl (by rintro _ ⟨⟩)
  refine ⟨2, past.queue ++ said, ⟨(mark.advance (key.length + 1)).index, past.line,
    past.delivered + past.queue.length + said.length, []⟩, ?_, ?_, fun fuel => ?_⟩
  · have := List.length_pos_iff.mpr nonempty
    simp only [List.length_append, List.length_cons]
    omega
  · simp [said, Function.comp_def]
  · rw [Nat.add_assoc, Nat.add_comm, run_succ _ first (deliver_keyReader short) rfl,
      run_succ _ second sent rfl]
    exact (Reading.prepend_append _ _ _).symm

/-- A key and the colon after it, where a key may start. -/
theorem leads_key {key : Text} (isKey : IsKey key) (ends : atSeparator rest)
    (left : ∀ block ∈ blocks.head?, block ≤ column) :
    Leads ⟨key ++ ':' :: rest, column, blocks, true⟩
      (opening .blockMappingStart blocks column ++ [.key, .scalar key .plain, .value])
      ⟨rest, column + key.length + 1, opened blocks column, false⟩ := by
  obtain ⟨c, tail, starts, solid, plain⟩ := isKey.starts
  refine leads_key_of_readToken (by simp [starts]) isKey.short ends
    (startsToken_of_isPlain isKey.toIsPlain fun _ => isKey.head.2.2) left ?_
  intro past
  have near : (blocks.head?.map (· + 1)).getD 0 ≤ column + 1 := by
    cases blocks with
    | nil => exact Nat.zero_le _
    | cons block outer => exact Nat.succ_le_succ (left block rfl)
  have point : column = 0 → c ≠ '.' ∧ c ≠ '-' := fun _ =>
    ⟨fun same => isKey.head.1 (by simp [starts, same]),
      fun same => isKey.head.2.1 (by simp [starts, same])⟩
  have text : (Spot.reader ⟨key ++ ':' :: rest, column, blocks, true⟩ past).cursor.rest =
      c :: (tail ++ ':' :: rest) := by
    simp [Spot.reader, starts]
  have read : PlainScalar.read false ((blocks.head?.map (· + 1)).getD 0)
      ⟨key ++ ':' :: rest, ⟨past.index, past.line, column⟩⟩ =
      .ok ⟨key, false, ⟨':' :: rest, (Mark.mk past.index past.line column).advance key.length⟩⟩ := by
    rw [PlainScalar.read_append isKey.toIsPlain near, PlainScalar.readFrom_colon rfl ends]
    simp [Except.map]
  rw [readToken_of_plain text solid plain.append rfl point]
  simp [readPlainScalar, Spot.reader, Spot.keyReader, markCandidate, dropCandidate, inFlow,
    TokenReader.mark, pushUpTo, push, bind, Except.bind, pure, Except.pure, read]
  rfl

/-! ## Gaps -/

theorem skipToToken_replicate_space (inFlow keyAllowed : Bool) (width : Nat) :
    ∀ mark, skipToToken inFlow false keyAllowed (List.replicate width ' ' ++ rest) mark =
      skipToToken inFlow false keyAllowed rest (mark.advance width) := by
  induction width with
  | zero => intro mark; rfl
  | succ width ih =>
    intro mark
    rw [List.replicate_succ, List.cons_append, skipToToken]
    · simp [(by decide : isBreak ' ' = false), ih, Nat.add_comm 1]
    · rintro _ ⟨⟩

theorem skipToToken_newLine (keyAllowed : Bool) (mark : Mark) :
    skipToToken false false keyAllowed ('\n' :: rest) mark =
      skipToToken false false true rest (mark.newLine 1) := by
  rw [skipToToken]
  · simp [(by decide : isBreak '\n' = true)]
  · rintro _ ⟨⟩

/-- Line feeds and the spaces after them are skipped, and a key may start after them. -/
theorem skipToToken_lineGap {width : Nat} (starts : StartsToken width rest) (blank : Nat) :
    ∀ (keyAllowed : Bool) (mark : Mark),
      skipToToken false false keyAllowed (lineGap blank width ++ rest) mark =
        (⟨rest, mark.afterGap blank width⟩, true) := by
  induction blank with
  | zero =>
    intro keyAllowed mark
    have moved : (mark.newLine 1).advance width = mark.afterGap 0 width := by
      simp [Mark.newLine, Mark.advance, Mark.afterGap, Nat.add_assoc]
    have column : (mark.afterGap 0 width).column = width := rfl
    rw [lineGap, List.replicate_succ, List.cons_append, List.cons_append, List.replicate_zero,
      List.nil_append, skipToToken_newLine, skipToToken_replicate_space, moved]
    exact skipToToken_eq_self starts
  | succ blank ih =>
    intro keyAllowed mark
    rw [lineGap_succ, List.cons_append, skipToToken_newLine, ih, Mark.afterGap_newLine]

theorem run_congr {reader other : TokenReader} (fuel : Nat) (same : reader.step = other.step) :
    run (fuel + 1) reader = run (fuel + 1) other := by
  simp only [run, same]

/-- At the end of its line a candidate that need not be a key is none. -/
theorem step_lineGap (reader : TokenReader) {blank width : Nat}
    (text : reader.cursor.rest = lineGap blank width ++ rest) (starts : StartsToken width rest)
    (block : reader.outer = [])
    (old : ∀ key ∈ reader.candidate, key.required = false ∧ key.mark.line ≤ reader.mark.line) :
    reader.step = TokenReader.step
      { reader with
        cursor := ⟨rest, reader.mark.afterGap blank width⟩
        candidate := none
        keyAllowed := true } := by
  obtain ⟨⟨whole, mark⟩, queue, delivered, blocks, candidate, outer, keyAllowed, finished⟩ := reader
  cases block
  simp only at text
  subst text
  have gap := skipToToken_lineGap starts blank keyAllowed mark
  have here : skipToToken false false true rest (mark.afterGap blank width) =
      (⟨rest, mark.afterGap blank width⟩, true) := skipToToken_eq_self starts
  cases candidate with
  | none =>
    simp [step, toToken, inFlow, TokenReader.mark, gap, here, dropStale, refresh]
  | some key =>
    obtain ⟨optional, before⟩ := old key rfl
    have stale : key.mark.line < (mark.afterGap blank width).line := by
      simp only [Mark.afterGap, TokenReader.mark] at before ⊢
      omega
    simp [step, toToken, inFlow, TokenReader.mark, gap, here, dropStale, refresh, isStale, stale,
      giveUp, optional, bind, Except.bind, pure, Except.pure]

theorem leads_lineGap {blank width : Nat} (starts : StartsToken width rest) :
    Leads ⟨lineGap blank width ++ rest, column, blocks, keyAllowed⟩ []
      ⟨rest, width, blocks, true⟩ := by
  intro past
  refine ⟨0, [], ⟨past.index + (blank + 1 + width), past.line + (blank + 1), past.delivered,
    past.queue⟩, by simp, by simp, fun fuel => ?_⟩
  rw [Nat.zero_add]
  exact run_congr fuel (step_lineGap _ rfl starts rfl (by rintro _ ⟨⟩))

theorem leads_spaces (width : Nat) :
    Leads ⟨List.replicate width ' ' ++ rest, column, blocks, keyAllowed⟩ []
      ⟨rest, column + width, blocks, keyAllowed⟩ := by
  intro past
  refine ⟨0, [], ⟨past.index + width, past.line, past.delivered, past.queue⟩, by simp, by simp,
    fun fuel => ?_⟩
  rw [Nat.zero_add]
  refine run_congr fuel ?_
  simp only [step, toToken, Spot.reader, TokenReader.mark, skipToToken_replicate_space]
  rfl

theorem leads_space :
    Leads ⟨' ' :: rest, column, blocks, keyAllowed⟩ [] ⟨rest, column + 1, blocks, keyAllowed⟩ :=
  leads_spaces 1

/-- A text left of the innermost block collection ends it. -/
theorem leads_close {block : Nat} (left : column < block) (starts : StartsToken column text) :
    Leads ⟨text, column, block :: blocks, keyAllowed⟩ [.blockEnd]
      ⟨text, column, blocks, keyAllowed⟩ := by
  intro past
  refine ⟨0, [], { past with queue := past.queue ++ [⟨.blockEnd, ⟨past.index, past.line, column⟩⟩] },
    by simp, by simp, fun fuel => ?_⟩
  rw [Nat.zero_add]
  refine run_congr fuel ?_
  have here : skipToToken false false keyAllowed text ⟨past.index, past.line, column⟩ =
      (⟨text, ⟨past.index, past.line, column⟩⟩, keyAllowed) := skipToToken_eq_self starts
  simp [step, toToken, inFlow, Spot.reader, TokenReader.mark, here, dropStale, refresh, closeBlocks,
    left, bind, Except.bind, pure, Except.pure]
  rfl

/-! ## Values -/

/-- A plain scalar at the end of its line. -/
theorem leads_plain {value : Text} {blank width block : Nat} (plain : PlainScalar.IsPlain value)
    (inside : 0 < column) (inner : blocks.head? = some block) (right : block ≤ column)
    (left : width ≤ block) (optional : keyAllowed → block ≠ column)
    (next : StartsToken width rest) :
    Leads ⟨value ++ (lineGap blank width ++ rest), column, blocks, keyAllowed⟩
      [.scalar value .plain] ⟨rest, width, blocks, true⟩ := by
  intro past
  obtain ⟨c, tail, begins, solid, indicator⟩ := plain.starts
  let spot : Spot := ⟨value ++ (lineGap blank width ++ rest), column, blocks, keyAllowed⟩
  let mark : Mark := ⟨past.index, past.line, column⟩
  let ended : TokenReader :=
    { cursor := ⟨rest, (mark.advance value.length).afterGap blank width⟩
      queue := past.queue ++ [⟨.scalar value .plain, mark⟩]
      delivered := past.delivered
      blocks
      candidate :=
        if keyAllowed then some ⟨past.delivered + past.queue.length, false, mark⟩ else none }
  have read : PlainScalar.read false (block + 1) ⟨value ++ (lineGap blank width ++ rest), mark⟩ =
      .ok ⟨value, true, ended.cursor⟩ := by
    rw [PlainScalar.read_append plain (Nat.succ_le_succ right),
      PlainScalar.readFrom_lineEnd blank width rfl (Nat.lt_succ_of_le left) next.solid]
    simp [Except.map, ended]
  have text : (spot.reader past).cursor.rest = c :: (tail ++ (lineGap blank width ++ rest)) := by
    simp [Spot.reader, spot, begins]
  have stays : ∀ inner ∈ spot.blocks.head?, inner ≤ spot.column := by
    simp only [spot, inner]
    rintro _ ⟨⟩
    exact right
  have nonzero : column ≠ 0 := Nat.pos_iff_ne_zero.mp inside
  have starts : StartsToken spot.column spot.text :=
    startsToken_of_isPlain plain fun start => absurd start nonzero
  have first : (spot.reader past).step = .ok ended := by
    rw [step_eq_readToken (spot.reader past) starts rfl stays,
      readToken_of_plain text solid indicator.append rfl fun start => absurd start nonzero]
    cases keyAllowed with
    | false =>
      simp [readPlainScalar, Spot.reader, spot, markCandidate, inFlow, TokenReader.mark, pushUpTo,
        push, bind, Except.bind, pure, Except.pure, inner, read, mark, ended]
    | true =>
      simp [readPlainScalar, Spot.reader, spot, markCandidate, dropCandidate, inFlow,
        TokenReader.mark, pushUpTo, push, bind, Except.bind, pure, Except.pure, inner, read, mark,
        ended, optional rfl]
  have sent : ended.deliver = .ok (ended.queue, { ended with
      queue := []
      delivered := past.delivered + ended.queue.length
      candidate := none }) := by
    refine deliver_of_stale rfl ?_
    cases keyAllowed with
    | false => rintro _ ⟨⟩
    | true =>
      rintro _ ⟨⟩
      simp only [isStale, ended, mark, TokenReader.mark, Mark.afterGap, Mark.advance]
      simp
  refine ⟨1, ended.queue, ⟨ended.mark.index, ended.mark.line, past.delivered + ended.queue.length,
    []⟩, ?_, by simp [ended], fun fuel => ?_⟩
  · simp only [begins, List.length_append, List.length_cons]
    omega
  · rw [Nat.add_comm 1, run_succ _ first sent rfl]
    rfl

/-- The quotes of the two styles. -/
def IsQuote (quote : Char) (style : ScalarStyle) : Prop :=
  quote = '"' ∧ style = .doubleQuoted ∨ quote = '\'' ∧ style = .singleQuoted

theorem startsToken_quote {quote : Char} {style : ScalarStyle} {inside : Text}
    (isQuote : IsQuote quote style) : StartsToken column (quote :: inside) := by
  have signs : isSeparator quote = false ∧ quote ≠ '#' ∧ quote ≠ '\uFEFF' := by
    rcases isQuote with ⟨rfl, -⟩ | ⟨rfl, -⟩ <;> decide
  exact ⟨by simpa using signs.1, by simpa using signs.2.1, fun _ => by simpa using signs.2.2⟩

/-- A quoted scalar is the token where a quote stands. -/
theorem readToken_quote {reader : TokenReader} {quote : Char} {style : ScalarStyle}
    (isQuote : IsQuote quote style) (text : reader.cursor.rest = quote :: rest) :
    reader.readToken = reader.readQuotedScalar quote style := by
  have other : ∀ sign ∈ "-.%[]\x7b\x7d,?:*&!|>".toList, quote ≠ sign := by
    rcases isQuote with ⟨rfl, -⟩ | ⟨rfl, -⟩ <;> decide
  rw [readToken, text]
  simp only [isDocumentSign_eq_false (other '-' (by decide)),
    isDocumentSign_eq_false (other '.' (by decide)), other '%' (by decide), other '[' (by decide),
    other '{' (by decide), other ']' (by decide), other '}' (by decide), other ',' (by decide),
    other '-' (by decide), other '?' (by decide), other ':' (by decide), other '*' (by decide),
    other '&' (by decide), other '!' (by decide), other '|' (by decide), other '>' (by decide),
    decide_false, Bool.and_false, Bool.false_and, Bool.false_eq_true, ↓reduceIte]
  rcases isQuote with ⟨rfl, rfl⟩ | ⟨rfl, rfl⟩ <;> rfl

/-- A quoted scalar at the end of its line, if it is the same wherever it stands. -/
theorem leads_quoted {quote : Char} {style : ScalarStyle} {inside content : Text}
    {blank width block : Nat} (isQuote : IsQuote quote style)
    (reads : ∀ mark, ∃ length,
      QuotedScalar.read quote ⟨quote :: inside ++ (lineGap blank width ++ rest), mark⟩ =
        .ok (content, ⟨lineGap blank width ++ rest, mark.advance length⟩))
    (inner : blocks.head? = some block) (right : block ≤ column)
    (optional : keyAllowed → block ≠ column) (next : StartsToken width rest) :
    Leads ⟨quote :: inside ++ (lineGap blank width ++ rest), column, blocks, keyAllowed⟩
      [.scalar content style] ⟨rest, width, blocks, true⟩ := by
  intro past
  let spot : Spot :=
    ⟨quote :: inside ++ (lineGap blank width ++ rest), column, blocks, keyAllowed⟩
  let mark : Mark := ⟨past.index, past.line, column⟩
  obtain ⟨length, read⟩ := reads mark
  rw [List.cons_append] at read
  have stays : ∀ inner ∈ spot.blocks.head?, inner ≤ spot.column := by
    simp only [spot, inner]
    rintro _ ⟨⟩
    exact right
  let ended : TokenReader :=
    { cursor := ⟨lineGap blank width ++ rest, mark.advance length⟩
      queue := past.queue ++ [⟨.scalar content style, mark⟩]
      delivered := past.delivered
      blocks
      candidate :=
        if keyAllowed then some ⟨past.delivered + past.queue.length, false, mark⟩ else none
      keyAllowed := false }
  have first : (spot.reader past).step = .ok ended := by
    rw [step_eq_readToken (spot.reader past) (startsToken_quote isQuote) rfl stays,
      readToken_quote isQuote rfl]
    cases keyAllowed with
    | false =>
      simp [readQuotedScalar, Spot.reader, spot, markCandidate, pushUpTo, push, TokenReader.mark,
        bind, Except.bind, pure, Except.pure, read, mark, ended]
    | true =>
      simp [readQuotedScalar, Spot.reader, spot, markCandidate, dropCandidate, inFlow, pushUpTo,
        push, TokenReader.mark, bind, Except.bind, pure, Except.pure, inner, read, mark, ended,
        optional rfl]
  have shorter : 1 + rest.length ≤
      (quote :: inside ++ (lineGap blank width ++ rest)).length := by
    simp only [List.length_append, List.length_cons]
    omega
  let after : Mark := (mark.advance length).afterGap blank width
  by_cases stays : keyAllowed = true ∧ length ≤ maxKeyLength
  · obtain ⟨rfl, short⟩ := stays
    let waiting : TokenReader :=
      { ended with
        queue := [⟨.scalar content style, mark⟩]
        delivered := past.delivered + past.queue.length }
    have sent : ended.deliver = .ok (past.queue, waiting) := by
      rw [deliver_of_key ended past.queue.length rfl rfl
        (by simpa [isStale, ended, mark, Mark.advance, TokenReader.mark] using short) rfl]
      simp [ended, waiting]
    have gap := step_lineGap waiting rfl next rfl (by
      rintro _ ⟨⟩
      simp [waiting, ended, TokenReader.mark, Mark.advance])
    refine ⟨1, past.queue, ⟨after.index, after.line, waiting.delivered, waiting.queue⟩, shorter,
      by simp [waiting], fun fuel => ?_⟩
    rw [Nat.add_comm 1, run_succ _ first sent rfl, run_congr fuel gap]
    rfl
  · let free : TokenReader :=
      { ended with
        queue := []
        delivered := past.delivered + ended.queue.length
        candidate := none }
    have sent : ended.deliver = .ok (ended.queue, free) := by
      refine deliver_of_stale rfl ?_
      cases keyAllowed with
      | false => rintro _ ⟨⟩
      | true =>
        rintro _ ⟨⟩
        simpa [isStale, ended, mark, TokenReader.mark, Mark.advance] using stays
    have gap := step_lineGap free rfl next rfl (by rintro _ ⟨⟩)
    refine ⟨1, ended.queue, ⟨after.index, after.line, free.delivered, []⟩, shorter,
      by simp [ended], fun fuel => ?_⟩
    rw [Nat.add_comm 1, run_succ _ first sent rfl, run_congr fuel gap]
    rfl

/-- A text between double quotes at the end of its line. -/
theorem leads_doubleQuoted {value : Text} {blank width block : Nat}
    (unbroken : ∀ c ∈ value, isBreak c = false)
    (inner : blocks.head? = some block) (right : block ≤ column)
    (optional : keyAllowed → block ≠ column) (next : StartsToken width rest) :
    Leads ⟨InlineValue.doubleQuoted value ++ (lineGap blank width ++ rest), column, blocks,
        keyAllowed⟩
      [.scalar value .doubleQuoted] ⟨rest, width, blocks, true⟩ :=
  leads_quoted (.inl ⟨rfl, rfl⟩) (fun mark => QuotedScalar.read_doubleQuoted unbroken _ mark) inner
    right optional next

/-- The start of a block collection comes after the tokens that have been read. -/
theorem openBlock_next {reader : TokenReader} (kind : TokenKind) (mark : Mark)
    (block : reader.outer = []) :
    reader.openBlock kind reader.nextNumber mark =
      { reader with
        queue := reader.queue ++ (opening kind reader.blocks mark.column).map (⟨·, mark⟩)
        blocks := opened reader.blocks mark.column } := by
  obtain ⟨cursor, queue, delivered, blocks, candidate, outer, keyAllowed, finished⟩ := reader
  cases block
  simp only [openBlock, inFlow, insert, opening, opened, nextNumber, List.isEmpty_nil,
    Bool.not_true, Bool.false_or, Nat.add_sub_cancel_left, List.take_length, List.drop_length]
  split <;> simp_all

/-- The hyphen before an item of a block sequence. -/
theorem leads_dash (ends : atSeparator rest) (inside : 0 < column)
    (left : ∀ block ∈ blocks.head?, block ≤ column) :
    Leads ⟨'-' :: rest, column, blocks, true⟩
      (opening .blockSequenceStart blocks column ++ [.blockEntry])
      ⟨rest, column + 1, opened blocks column, true⟩ := by
  intro past
  let spot : Spot := ⟨'-' :: rest, column, blocks, true⟩
  let mark : Mark := ⟨past.index, past.line, column⟩
  let said : List Token :=
    (opening .blockSequenceStart blocks column).map (⟨·, mark⟩) ++ [⟨.blockEntry, mark⟩]
  let read : TokenReader :=
    { cursor := ⟨rest, mark.advance 1⟩
      queue := past.queue ++ said
      delivered := past.delivered
      blocks := opened blocks column }
  have starts : StartsToken spot.column spot.text :=
    ⟨by rintro _ ⟨⟩; decide, by rintro ⟨⟩, by rintro _ ⟨⟩⟩
  have nonzero : column ≠ 0 := Nat.pos_iff_ne_zero.mp inside
  have first : (spot.reader past).step = .ok read := by
    have entry : (spot.reader past).readToken = (spot.reader past).readBlockEntry := by
      simp [readToken, Spot.reader, spot, ends, TokenReader.mark, nonzero]
    rw [step_eq_readToken (spot.reader past) starts rfl left, entry, readBlockEntry,
      openBlock_next _ _ rfl]
    simp [Spot.reader, spot, inFlow, TokenReader.mark, dropCandidate, pushSign, push, bind,
      Except.bind, pure, Except.pure, read, said, mark, Cursor.advance]
  have sent : read.deliver = .ok (read.queue, { read with
      queue := []
      delivered := past.delivered + read.queue.length }) :=
    deliver_of_stale rfl (by rintro _ ⟨⟩)
  refine ⟨1, read.queue, ⟨past.index + 1, past.line, past.delivered + read.queue.length, []⟩,
    by simp [Nat.add_comm], by simp [read, said, Function.comp_def], fun fuel => ?_⟩
  rw [Nat.add_comm 1, run_succ _ first sent rfl]
  rfl

/-- A flow sequence without items, as a value. -/
theorem leads_emptySequence (left : ∀ block ∈ blocks.head?, block ≤ column) :
    Leads ⟨'[' :: ']' :: rest, column, blocks, false⟩ [.flowSequenceStart, .flowSequenceEnd]
      ⟨rest, column + 2, blocks, false⟩ := by
  intro past
  let spot : Spot := ⟨'[' :: ']' :: rest, column, blocks, false⟩
  let mark : Mark := ⟨past.index, past.line, column⟩
  let inside : TokenReader :=
    { cursor := ⟨']' :: rest, mark.advance 1⟩
      queue := past.queue ++ [⟨.flowSequenceStart, mark⟩]
      delivered := past.delivered
      blocks
      outer := [none] }
  let within : TokenReader :=
    { inside with queue := [], delivered := past.delivered + inside.queue.length }
  let read : TokenReader :=
    { within with
      cursor := ⟨rest, (mark.advance 1).advance 1⟩
      queue := [⟨.flowSequenceEnd, mark.advance 1⟩]
      outer := []
      keyAllowed := false }
  have starts : StartsToken spot.column spot.text :=
    ⟨by rintro _ ⟨⟩; decide, by rintro ⟨⟩, by rintro _ ⟨⟩⟩
  have opens : (spot.reader past).step = .ok inside := by
    have start : (spot.reader past).readToken =
        (spot.reader past).readFlowStart .flowSequenceStart := by
      simp [readToken, Spot.reader, spot, isDocumentSign_eq_false (by decide : '[' ≠ '-'),
        isDocumentSign_eq_false (by decide : '[' ≠ '.')]
    rw [step_eq_readToken (spot.reader past) starts rfl left, start]
    rfl
  have openSent : inside.deliver = .ok (inside.queue, within) := by
    simp [deliver, dropStale, refresh, nextNumber, bind, Except.bind, pure, Except.pure, inside,
      within, List.take_of_length_le]
  have closes : within.step = .ok read := by
    have starts : StartsToken within.mark.column within.cursor.rest :=
      ⟨by rintro _ ⟨⟩; decide, by rintro ⟨⟩, by rintro _ ⟨⟩⟩
    have stays : ∀ block ∈ within.blocks.head?, block ≤ within.mark.column := fun block first =>
      (left block first).trans (Nat.le_add_right _ _)
    have close : within.readToken = within.readFlowEnd .flowSequenceEnd := by
      simp [readToken, within, inside, isDocumentSign_eq_false (by decide : ']' ≠ '-'),
        isDocumentSign_eq_false (by decide : ']' ≠ '.')]
    rw [step_eq_readToken within starts rfl stays, close]
    rfl
  have closeSent : read.deliver = .ok (read.queue, { read with
      queue := []
      delivered := within.delivered + 1 }) := deliver_of_stale rfl (by rintro _ ⟨⟩)
  refine ⟨2, inside.queue ++ read.queue, ⟨past.index + 2, past.line, within.delivered + 1, []⟩,
    by simp only [List.length_cons]; omega, by simp [inside, read], fun fuel => ?_⟩
  rw [Nat.add_assoc, Nat.add_comm, run_succ _ opens openSent rfl, run_succ _ closes closeSent rfl]
  exact (Reading.prepend_append _ _ _).symm

/-- The sign that starts a document. -/
theorem leads_documentStart (ends : atSeparator rest) :
    Leads ⟨'-' :: '-' :: '-' :: rest, 0, [], true⟩ [.documentStart] ⟨rest, 3, [], false⟩ := by
  intro past
  let spot : Spot := ⟨'-' :: '-' :: '-' :: rest, 0, [], true⟩
  let mark : Mark := ⟨past.index, past.line, 0⟩
  let read : TokenReader :=
    { cursor := ⟨rest, mark.advance 3⟩
      queue := past.queue ++ [⟨.documentStart, mark⟩]
      delivered := past.delivered
      keyAllowed := false }
  have starts : StartsToken spot.column spot.text :=
    ⟨by rintro _ ⟨⟩; decide, by rintro ⟨⟩, by rintro _ ⟨⟩⟩
  have first : (spot.reader past).step = .ok read := by
    have sign : (spot.reader past).readToken =
        (spot.reader past).readDocumentSign .documentStart := by
      simp [readToken, Spot.reader, spot, isDocumentSign, ends, TokenReader.mark]
    rw [step_eq_readToken (spot.reader past) starts rfl (by rintro _ ⟨⟩), sign]
    simp [readDocumentSign, closeAllBlocks, closeBlocks, dropCandidate, Spot.reader, spot, inFlow,
      pushUpTo, push, Cursor.advance, TokenReader.mark, bind, Except.bind, pure, Except.pure, read,
      mark]
  have sent : read.deliver = .ok (read.queue, { read with
      queue := []
      delivered := past.delivered + read.queue.length }) :=
    deliver_of_stale rfl (by rintro _ ⟨⟩)
  refine ⟨1, read.queue, ⟨past.index + 3, past.line, past.delivered + read.queue.length, []⟩,
    by simp; omega, by simp [read], fun fuel => ?_⟩
  rw [Nat.add_comm 1, run_succ _ first sent rfl]
  rfl

/-- At the end of the text all block collections end. -/
theorem run_end (past : Past) (fuel : Nat) :
    ∃ tokens : List Token,
      tokens.map Token.kind = past.queue.map Token.kind ++
        List.replicate blocks.length .blockEnd ++ [.streamEnd] ∧
      run (fuel + 1) (Spot.reader ⟨[], column, blocks, keyAllowed⟩ past) =
        .prepend tokens .ended := by
  let mark : Mark := ⟨past.index, past.line, column⟩
  let after : Mark := if column = 0 then mark else { mark with line := mark.line + 1, column := 0 }
  let right := blocks.takeWhile (column < ·)
  let left := blocks.dropWhile (column < ·)
  let ends : List Token :=
    (right.map fun _ => ⟨.blockEnd, mark⟩) ++ (left.map fun _ => ⟨.blockEnd, after⟩)
  have count : right.length + left.length = blocks.length := by
    rw [← List.length_append, List.takeWhile_append_dropWhile]
  refine ⟨past.queue ++ ends ++ [⟨.streamEnd, after⟩], ?_, ?_⟩
  · have same : ends.map Token.kind = List.replicate blocks.length .blockEnd := by
      simp [ends, ← count]
    simp only [List.map_append, same, List.map_cons, List.map_nil]
  · let closed : TokenReader :=
      { cursor := ⟨[], mark⟩
        queue := past.queue ++ right.map fun _ => ⟨.blockEnd, mark⟩
        delivered := past.delivered
        blocks := left
        keyAllowed }
    let read : TokenReader :=
      { cursor := ⟨[], after⟩
        queue := past.queue ++ ends ++ [⟨.streamEnd, after⟩]
        delivered := past.delivered
        keyAllowed := false
        finished := true }
    have first : TokenReader.step (Spot.reader ⟨[], column, blocks, keyAllowed⟩ past) =
        .ok read := by
      have ending : TokenReader.step (Spot.reader ⟨[], column, blocks, keyAllowed⟩ past) =
          closed.readEnd := rfl
      have all : left.takeWhile (fun _ => true) = left ∧ left.dropWhile (fun _ => true) = [] := by
        simp
      rw [ending]
      simp [readEnd, closeAllBlocks, closeBlocks, inFlow, dropCandidate, push, TokenReader.mark,
        bind, Except.bind, pure, Except.pure, closed, read, ends, all]
      exact ⟨rfl, .inr rfl, rfl⟩
    have sent : read.deliver = .ok (read.queue, { read with
        queue := []
        delivered := past.delivered + read.queue.length }) :=
      deliver_of_stale rfl (by rintro _ ⟨⟩)
    simp only [run, first, sent]
    rfl

/-- The tokens of a text that is passed from its start to its end. -/
theorem tokens_of_leads {kinds : List TokenKind} (allowed : ∀ c ∈ text, isAllowed c)
    (leads : Leads ⟨text, 0, [], true⟩ kinds ⟨[], column, blocks, keyAllowed⟩) :
    ∃ found : List Token,
      found.map Token.kind = kinds ++ List.replicate blocks.length .blockEnd ++ [.streamEnd] ∧
      tokens text = .prepend found .ended := by
  obtain ⟨steps, sent, past, short, said, run⟩ := leads ⟨0, 0, 0, []⟩
  obtain ⟨last, lastSaid, finish⟩ := run_end past (text.length - steps)
  refine ⟨sent ++ last, ?_, ?_⟩
  · rw [List.map_append, lastSaid, ← List.append_assoc, ← List.append_assoc, ← List.map_append,
      said]
    rfl
  · have enough : text.length + 1 = steps + (text.length - steps) + 1 := by
      have : steps ≤ text.length := Nat.le_of_add_right_le short
      omega
    simp only [tokens, readable_of_allowed allowed]
    rw [enough, Reading.prepend_append, ← finish]
    exact run _

end TokenReader

end PlaybookRepair.Yaml
