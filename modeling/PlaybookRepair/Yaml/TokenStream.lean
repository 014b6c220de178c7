import PlaybookRepair.Yaml.BlockScalar
import PlaybookRepair.Yaml.Directive
import PlaybookRepair.Yaml.PlainScalar
import PlaybookRepair.Yaml.QuotedScalar
import PlaybookRepair.Yaml.Reading

/-!
# The tokens of a text

A text is read token by token. What a line begins with may turn out to be a mapping key only when
the colon after it is reached, so tokens wait in a queue while they may still become keys: the key
sign, and the start of a block mapping, are then put before them. A possible key ends with its line
or after 1024 characters; one that starts a line of a block mapping has to be a key.

Block collections are known by their columns. A line that starts left of a collection's column ends
that collection. Inside flow collections indentation means nothing.
-/

namespace PlaybookRepair.Yaml

/-- A place where a mapping key may have started. -/
structure KeyCandidate where
  /-- The position of the candidate's first token among all tokens. -/
  tokenNumber : Nat
  /-- The candidate starts a line of a block mapping, where nothing but a key may stand. -/
  required : Bool
  mark : Mark
deriving Repr, DecidableEq

/-- The longest text of a mapping key that has no sign before it. -/
def maxKeyLength : Nat := 1024

/-- What has been read of a text, and what is still undecided about it. -/
structure TokenReader where
  cursor : Cursor
  /-- Tokens that wait for a possible key to be decided. -/
  queue : List Token := []
  /-- The number of tokens that have left the queue. -/
  delivered : Nat := 0
  /-- The columns of the open block collections, the innermost first. -/
  blocks : List Nat := []
  /-- The candidate of the innermost collection. -/
  candidate : Option KeyCandidate := none
  /-- The candidates of the collections around each open flow collection. -/
  outer : List (Option KeyCandidate) := []
  /-- A mapping key may start here. -/
  keyAllowed : Bool := true
  /-- The end of the text has been read. -/
  finished : Bool := false

namespace TokenReader

/-- Whether the reader is inside a flow collection. -/
def inFlow (reader : TokenReader) : Bool := !reader.outer.isEmpty

/-- The mark of the reader's cursor. -/
def mark (reader : TokenReader) : Mark := reader.cursor.mark

/-- The failure by a problem at the reader's position. -/
def failHere {α : Type} (reader : TokenReader) (cause : Problem) : Except SyntaxError α :=
  .error (.problem cause reader.mark none)

/-- The reader with a token at the end of its queue. -/
def push (reader : TokenReader) (kind : TokenKind) : TokenReader :=
  { reader with queue := reader.queue ++ [⟨kind, reader.mark⟩] }

/-- The reader with a token of one character, behind which it goes on. -/
def pushSign (reader : TokenReader) (kind : TokenKind) : TokenReader :=
  { reader.push kind with cursor := reader.cursor.advance 1 }

/-- The reader with a token, behind which it goes on at `cursor`. -/
def pushUpTo (reader : TokenReader) (kind : TokenKind) (cursor : Cursor) : TokenReader :=
  { reader.push kind with cursor }

/-- The reader with a token put before the token that has the given number. -/
def insert (reader : TokenReader) (number : Nat) (token : Token) : TokenReader :=
  let place := number - reader.delivered
  { reader with queue := reader.queue.take place ++ token :: reader.queue.drop place }

/-! ## Possible keys -/

/-- Whether a candidate can no longer become a key at the given position. -/
def isStale (mark : Mark) (candidate : KeyCandidate) : Bool :=
  candidate.mark.line < mark.line || candidate.mark.index + maxKeyLength < mark.index

/-- Fails if a candidate that has to be a key is given up. -/
def giveUp (reader : TokenReader) (candidate : KeyCandidate) : Except SyntaxError Unit :=
  if candidate.required then
    fail .simpleKey candidate.mark .simpleKeyWithoutColon reader.mark
  else .ok ()

/-- The candidate unless it is stale. -/
def refresh (reader : TokenReader) (candidate : Option KeyCandidate) :
    Except SyntaxError (Option KeyCandidate) :=
  match candidate with
  | some key =>
    if isStale reader.mark key then do
      reader.giveUp key
      return none
    else .ok (some key)
  | none => .ok none

/-- The reader without its stale candidates. -/
def dropStale (reader : TokenReader) : Except SyntaxError TokenReader := do
  let outer ← reader.outer.mapM reader.refresh
  let candidate ← reader.refresh reader.candidate
  return { reader with candidate, outer }

/-- The reader without the innermost candidate. -/
def dropCandidate (reader : TokenReader) : Except SyntaxError TokenReader := do
  if let some key := reader.candidate then reader.giveUp key
  return { reader with candidate := none }

/-- The reader with a candidate at its position, if a key may start there. -/
def markCandidate (reader : TokenReader) : Except SyntaxError TokenReader :=
  if reader.keyAllowed then do
    let candidate : KeyCandidate :=
      { tokenNumber := reader.delivered + reader.queue.length
        required := !reader.inFlow && reader.blocks.head? = some reader.mark.column
        mark := reader.mark }
    let reader ← reader.dropCandidate
    return { reader with candidate := some candidate }
  else .ok reader

/-! ## Block collections -/

/-- The reader after the end of the block collections for which `leaves` holds, up to the first for
which it does not. -/
def closeBlocks (reader : TokenReader) (leaves : Nat → Bool) : TokenReader :=
  if reader.inFlow then reader
  else
    let left := reader.blocks.takeWhile leaves
    { reader with
      blocks := reader.blocks.dropWhile leaves
      queue := reader.queue ++ left.map fun _ => ⟨.blockEnd, reader.mark⟩ }

/-- The reader after the end of all block collections. -/
def closeAllBlocks (reader : TokenReader) : TokenReader := reader.closeBlocks fun _ => true

/-- The reader after the start of a block collection at the column of `mark`, unless one at this
column or right of it is open. The starting token comes before the token with the given number. -/
def openBlock (reader : TokenReader) (kind : TokenKind) (number : Nat) (mark : Mark) :
    TokenReader :=
  if reader.inFlow || reader.blocks.head?.any (mark.column ≤ ·) then reader
  else { reader.insert number ⟨kind, mark⟩ with blocks := mark.column :: reader.blocks }

/-- The number of the next token. -/
def nextNumber (reader : TokenReader) : Nat := reader.delivered + reader.queue.length

/-! ## Single tokens -/

/-- The cursor at the next token, past spaces, comments and line breaks, and whether a key may start
there. Tabs count as spaces where no key may start, and a byte order mark at the start of a line is
passed over. -/
def skipToToken (inFlow : Bool) : (inComment keyAllowed : Bool) → Text → Mark → Cursor × Bool
  | _, keyAllowed, [], mark => (⟨[], mark⟩, keyAllowed)
  | _, keyAllowed, '\r' :: '\n' :: rest, mark =>
    skipToToken inFlow false (keyAllowed || !inFlow) rest (mark.newLine 2)
  | inComment, keyAllowed, c :: rest, mark =>
    if isBreak c then skipToToken inFlow false (keyAllowed || !inFlow) rest (mark.newLine 1)
    else if inComment || c = '#' then
      skipToToken inFlow true keyAllowed rest (mark.advance 1)
    else if c = ' ' || (c = '\t' && (inFlow || !keyAllowed)) ||
        (c = '\uFEFF' && mark.column = 0) then
      skipToToken inFlow false keyAllowed rest (mark.advance 1)
    else (⟨c :: rest, mark⟩, keyAllowed)

/-- The reader at the next token. -/
def toToken (reader : TokenReader) : TokenReader :=
  let (cursor, keyAllowed) :=
    skipToToken reader.inFlow false reader.keyAllowed reader.cursor.rest reader.mark
  { reader with cursor, keyAllowed }

/-- The end of the text, which counts as the start of a new line. -/
def readEnd (reader : TokenReader) : Except SyntaxError TokenReader := do
  let mark := reader.mark
  let mark := if mark.column = 0 then mark else { mark with line := mark.line + 1, column := 0 }
  let reader := { reader with cursor := { reader.cursor with mark } }
  let reader ← reader.closeAllBlocks.dropCandidate
  return { reader.push .streamEnd with keyAllowed := false, finished := true }

/-- A directive. -/
def readDirective (reader : TokenReader) : Except SyntaxError TokenReader := do
  let reader ← reader.closeAllBlocks.dropCandidate
  let (token, cursor) ← Directive.read reader.cursor
  return { reader.pushUpTo token cursor with keyAllowed := false }

/-- A document sign. -/
def readDocumentSign (reader : TokenReader) (kind : TokenKind) :
    Except SyntaxError TokenReader := do
  let reader ← reader.closeAllBlocks.dropCandidate
  return { reader.pushUpTo kind (reader.cursor.advance 3) with keyAllowed := false }

/-- The opening sign of a flow collection, which may itself be a key. -/
def readFlowStart (reader : TokenReader) (kind : TokenKind) : Except SyntaxError TokenReader := do
  let reader ← reader.markCandidate
  return { reader.pushSign kind with
    outer := reader.candidate :: reader.outer, candidate := none, keyAllowed := true }

/-- The closing sign of a flow collection. -/
def readFlowEnd (reader : TokenReader) (kind : TokenKind) : Except SyntaxError TokenReader := do
  let reader ← reader.dropCandidate
  let reader :=
    match reader.outer with
    | candidate :: outer => { reader with candidate, outer }
    | [] => reader
  return { reader.pushSign kind with keyAllowed := false }

/-- The comma between the items of a flow collection. -/
def readFlowEntry (reader : TokenReader) : Except SyntaxError TokenReader := do
  let reader ← reader.dropCandidate
  return { reader.pushSign .flowEntry with keyAllowed := true }

/-- The hyphen before an item of a block sequence. -/
def readBlockEntry (reader : TokenReader) : Except SyntaxError TokenReader := do
  if !reader.inFlow && !reader.keyAllowed then reader.failHere .blockEntryNotAllowed
  else
    let reader := reader.openBlock .blockSequenceStart reader.nextNumber reader.mark
    let reader ← reader.dropCandidate
    return { reader.pushSign .blockEntry with keyAllowed := true }

/-- The question mark before a mapping key. -/
def readKey (reader : TokenReader) : Except SyntaxError TokenReader := do
  if !reader.inFlow && !reader.keyAllowed then reader.failHere .mappingKeyNotAllowed
  else
    let reader := reader.openBlock .blockMappingStart reader.nextNumber reader.mark
    let reader ← reader.dropCandidate
    return { reader.pushSign .key with keyAllowed := !reader.inFlow }

/-- The colon before a mapping value. If a candidate stands before it, that is the key. -/
def readValue (reader : TokenReader) : Except SyntaxError TokenReader :=
  match reader.candidate with
  | some key =>
    let reader := reader.insert key.tokenNumber ⟨.key, key.mark⟩
    let reader := reader.openBlock .blockMappingStart key.tokenNumber key.mark
    .ok { reader.pushSign .value with candidate := none, keyAllowed := false }
  | none =>
    if !reader.inFlow && !reader.keyAllowed then reader.failHere .mappingValueNotAllowed
    else
      let reader := reader.openBlock .blockMappingStart reader.nextNumber reader.mark
      .ok { reader.pushSign .value with keyAllowed := !reader.inFlow }

/-- An anchor or an alias. -/
def readReference (reader : TokenReader) (activity : Activity) (kind : Text → TokenKind) :
    Except SyntaxError TokenReader := do
  let reader ← reader.markCandidate
  let (name, cursor) ← readName activity reader.cursor
  return { reader.pushUpTo (kind name) cursor with keyAllowed := false }

/-- A tag. -/
def readTag (reader : TokenReader) : Except SyntaxError TokenReader := do
  let reader ← reader.markCandidate
  let (token, cursor) ← Tag.read reader.inFlow reader.cursor
  return { reader.pushUpTo token cursor with keyAllowed := false }

/-- A block scalar, after which a new line starts. -/
def readBlockScalar (reader : TokenReader) (style : ScalarStyle) :
    Except SyntaxError TokenReader := do
  let reader ← reader.dropCandidate
  let (value, cursor) ← BlockScalar.read (style = .folded) reader.blocks.head? reader.cursor
  return { reader.pushUpTo (.scalar value style) cursor with keyAllowed := true }

/-- A quoted scalar. -/
def readQuotedScalar (reader : TokenReader) (quote : Char) (style : ScalarStyle) :
    Except SyntaxError TokenReader := do
  let reader ← reader.markCandidate
  let (value, cursor) ← QuotedScalar.read quote reader.cursor
  return { reader.pushUpTo (.scalar value style) cursor with keyAllowed := false }

/-- A plain scalar. If the gap after it breaks the line, a key may start there. -/
def readPlainScalar (reader : TokenReader) : Except SyntaxError TokenReader := do
  let reader ← reader.markCandidate
  let indent := (reader.blocks.head?.map (· + 1)).getD 0
  let scalar ← PlainScalar.read reader.inFlow indent reader.cursor
  return { reader.pushUpTo (.scalar scalar.value .plain) scalar.cursor with
    keyAllowed := scalar.endsLine }

/-- The characters that cannot start a plain scalar on their own. -/
def indicators : Text := "-?:,[]\x7b\x7d#&*!|>'\"%@\x60".toList

/-- Whether a plain scalar starts with the character `c`, before which a token may start and after
which `rest` follows. -/
def startsPlainScalar (inFlow : Bool) (c : Char) (rest : Text) : Bool :=
  !(isSeparator c || indicators.contains c) || (c = '-' && !rest.head?.any isSpace) ||
    (!inFlow && (c = '?' || c = ':') && !atSeparator rest)

/-- The token at the reader's position, which is that of a token or of the end. -/
def readToken (reader : TokenReader) : Except SyntaxError TokenReader :=
  match reader.cursor.rest with
  | [] => reader.readEnd
  | c :: rest =>
    let atLineStart := reader.mark.column = 0
    if atLineStart && c = '%' then reader.readDirective
    else if atLineStart && isDocumentSign '-' (c :: rest) then
      reader.readDocumentSign .documentStart
    else if atLineStart && isDocumentSign '.' (c :: rest) then
      reader.readDocumentSign .documentEnd
    else if c = '[' then reader.readFlowStart .flowSequenceStart
    else if c = '{' then reader.readFlowStart .flowMappingStart
    else if c = ']' then reader.readFlowEnd .flowSequenceEnd
    else if c = '}' then reader.readFlowEnd .flowMappingEnd
    else if c = ',' then reader.readFlowEntry
    else if c = '-' && atSeparator rest then reader.readBlockEntry
    else if c = '?' && (reader.inFlow || atSeparator rest) then reader.readKey
    else if c = ':' && (reader.inFlow || atSeparator rest) then reader.readValue
    else if c = '*' then reader.readReference .reference .reference
    else if c = '&' then reader.readReference .anchor .anchor
    else if c = '!' then reader.readTag
    else if c = '|' && !reader.inFlow then reader.readBlockScalar .literal
    else if c = '>' && !reader.inFlow then reader.readBlockScalar .folded
    else if c = '\'' then reader.readQuotedScalar '\'' .singleQuoted
    else if c = '"' then reader.readQuotedScalar '"' .doubleQuoted
    else if startsPlainScalar reader.inFlow c rest then reader.readPlainScalar
    else fail .nextToken reader.mark .noTokenStart reader.mark

/-- The reader after one more token of the text. -/
def step (reader : TokenReader) : Except SyntaxError TokenReader := do
  let reader ← reader.toToken.dropStale
  let column := reader.mark.column
  (reader.closeBlocks fun block => column < block).readToken

/-- The tokens at the head of the queue that no candidate holds back, and the reader without
them. -/
def deliver (reader : TokenReader) : Except SyntaxError (List Token × TokenReader) := do
  let reader ← reader.dropStale
  let held := (reader.candidate :: reader.outer).filterMap (·.map (·.tokenNumber))
  let ready := (held.min?.getD reader.nextNumber) - reader.delivered
  return (reader.queue.take ready,
    { reader with queue := reader.queue.drop ready, delivered := reader.delivered + ready })

/-- The tokens from a reader on, at most `fuel` of them being read from the text. -/
def run : Nat → TokenReader → Reading Token
  | 0, _ => .ended
  | fuel + 1, reader =>
    match reader.step with
    | .error error => .broken error
    | .ok reader =>
      match reader.deliver with
      | .error error => .broken error
      | .ok (tokens, reader) =>
        .prepend tokens (if reader.finished then .ended else run fuel reader)

end TokenReader

/-! ## Readable text -/

/-- The characters that a YAML text may hold. -/
def isAllowed (c : Char) : Bool :=
  let code := c.toNat
  code = 9 || code = 10 || code = 13 || (0x20 ≤ code && code ≤ 0x7E) || code = 0x85 ||
    (0xA0 ≤ code && code ≤ 0xD7FF) || (0xE000 ≤ code && code ≤ 0xFFFD) || 0x10000 ≤ code

/-- The number of octets that are examined together. -/
def blockSize : Nat := 16384

/-- The text before the first block of octets that holds a forbidden character, and the offset of
that character; or the offset alone, if it lies in the block that has begun. The block has room for
`room` more octets. -/
def readableFrom (room offset : Nat) : Text → Except Nat (Text × Option Nat)
  | [] => .ok ([], none)
  | c :: rest =>
    let size := c.utf8Size
    let startsBlock := room < size
    let room := if startsBlock then blockSize - size else room - size
    let found :=
      if isAllowed c then
        (readableFrom room (offset + size) rest).map fun (text, bad) => (c :: text, bad)
      else .error offset
    match found with
    | .error offset => if startsBlock then .ok ([], some offset) else .error offset
    | .ok found => .ok found

/-- The part of a text that can be read, and the offset of the forbidden character that stops the
reading. -/
def readable (text : Text) : Text × Option Nat :=
  match readableFrom blockSize 0 text with
  | .ok found => found
  | .error offset => ([], some offset)

/-- A reading of the first `length` characters, as a reading of a text of which they are all that
can be read: where it comes to their end, it breaks off. -/
def Reading.stopAt (length offset : Nat) : Reading Token → Reading Token
  | .ended => .broken (.forbiddenCharacter offset)
  | .broken (.problem cause mark during) =>
    if mark.index < length then .broken (.problem cause mark during)
    else .broken (.forbiddenCharacter offset)
  | .broken error => .broken error
  | .item token rest =>
    if token.start.index < length then .item token (rest.stopAt length offset)
    else .broken (.forbiddenCharacter offset)

/-- The tokens of a text. Every step but the last reads at least one character. -/
def tokens (text : Text) : Reading Token :=
  let (part, forbidden) := readable text
  let found := TokenReader.run (part.length + 1) { cursor := ⟨part, .start⟩ }
  match forbidden with
  | none => found
  | some offset => found.stopAt part.length offset

end PlaybookRepair.Yaml
