import PlaybookRepair.Yaml.SyntaxError

/-!
# Block scalars

A block scalar starts with a header: `|` for a literal or `>` for a folded one, with an optional
chomping sign and an optional indentation digit. Its text is the lines that follow, each without the
indentation of the block, which is that of the first line with content unless the header gives it.
A folded scalar joins two lines by a space when neither starts with one. The chomping sign decides
which of the line breaks at the end are kept.
-/

namespace PlaybookRepair.Yaml.BlockScalar

/-- What becomes of the line breaks at the end: all are dropped, one is kept, or all are kept. -/
inductive Chomping
  | strip
  | clip
  | keep
deriving Repr, DecidableEq

/-- The header of a block scalar. -/
structure Header where
  chomping : Chomping := .clip
  /-- The indentation digit, relative to the enclosing collection. -/
  increment : Option Nat := none
deriving Repr, DecidableEq

/-- The chomping that a sign asks for. -/
def chompingOf? (c : Char) : Option Chomping :=
  if c = '+' then some .keep else if c = '-' then some .strip else none

/-- The indentation digit at a cursor, if there is one. -/
def readIncrement (start : Mark) (cursor : Cursor) :
    Except SyntaxError (Option Nat × Cursor) :=
  match cursor.rest with
  | c :: _ =>
    if c = '0' then fail .blockScalar start .zeroIndentation cursor.mark
    else if c.isDigit then .ok (some (c.toNat - '0'.toNat), cursor.advance 1)
    else .ok (none, cursor)
  | [] => .ok (none, cursor)

/-- The chomping sign at a cursor, if there is one. -/
def readChomping (cursor : Cursor) : Option Chomping × Cursor :=
  match cursor.rest.head?.bind chompingOf? with
  | some chomping => (some chomping, cursor.advance 1)
  | none => (none, cursor)

/-- The header after its first character: a sign and a digit in either order, then nothing but
spaces and a comment up to the end of the line. The cursor returned stands on the next line. -/
def readHeader (start : Mark) (cursor : Cursor) : Except SyntaxError (Header × Cursor) := do
  let (first, cursor) := readChomping cursor
  let (increment, cursor) ← readIncrement start cursor
  let (chomping, cursor) :=
    match first, increment with
    | none, some _ => readChomping cursor
    | first, _ => (first, cursor)
  let cursor := cursor.skipSpaces.skipComment
  if atLineEnd cursor.rest then
    return ({ chomping := chomping.getD .clip, increment }, cursor.skipBreak)
  else fail .blockScalar start .expectedLineEnd cursor.mark

/-- What is fixed while the lines of a block scalar are read. -/
structure Place where
  folded : Bool
  chomping : Chomping
  /-- The least indentation that the block can have. -/
  leastIndent : Nat
  start : Mark

/-- What has been seen of a block scalar before a character. -/
structure State where
  /-- The indentation of the block, once it is known. -/
  indent : Option Nat
  /-- The character belongs to the text of a line. -/
  inLine : Bool := false
  /-- The greatest indentation of the blank lines before the indentation is known. -/
  widest : Nat := 0
  /-- The line break that ended the last line with content. -/
  lineBreak : Text := []
  /-- The breaks of the blank lines since then. -/
  blankBreaks : Text := []
  /-- The last line with content starts with a space or tab. -/
  afterSpaced : Bool := false

/-- Whether a column lies within the indentation of the block. -/
def State.withinIndent (state : State) (column : Nat) : Bool :=
  match state.indent with
  | none => true
  | some indent => column < indent

/-- What separates the last line with content from a line that starts with the character `c`. -/
def State.separation (place : Place) (state : State) (c : Char) : Text :=
  if place.folded && state.lineBreak = ['\n'] && !state.afterSpaced && !isSpace c then
    if state.blankBreaks.isEmpty then [' '] else state.blankBreaks
  else state.lineBreak ++ state.blankBreaks

/-- The line breaks at the end that are kept. -/
def State.tail (place : Place) (state : State) : Text :=
  match place.chomping with
  | .strip => []
  | .clip => state.lineBreak
  | .keep => state.lineBreak ++ state.blankBreaks

/-- The state after a line break. -/
def State.afterBreak (state : State) (text : Text) (column : Nat) : State :=
  if state.inLine then { state with inLine := false, lineBreak := text, blankBreaks := [] }
  else { state with
    blankBreaks := state.blankBreaks ++ text, widest := max state.widest column }

/-- The value of a block scalar from the given state on, and the cursor after it. -/
def readFrom (place : Place) (state : State) :
    Text → Mark → Except SyntaxError (Text × Cursor)
  | [], mark => .ok (state.tail place, ⟨[], mark⟩)
  | '\r' :: '\n' :: rest, mark =>
    readFrom place (state.afterBreak ['\n'] mark.column) rest (mark.newLine 2)
  | c :: rest, mark =>
    if !state.inLine && c = ' ' && state.withinIndent mark.column then
      readFrom place state rest (mark.advance 1)
    else if !state.inLine && c = '\t' && state.withinIndent mark.column then
      fail .blockScalar place.start .tabInIndentation mark
    else if isBreak c then
      readFrom place (state.afterBreak (breakText c) mark.column) rest (mark.newLine 1)
    else if state.inLine then do
      let (value, cursor) ← readFrom place state rest (mark.advance 1)
      return (c :: value, cursor)
    else
      let indent := state.indent.getD (max (max state.widest mark.column) place.leastIndent)
      if mark.column = indent then do
        let within : State :=
          { indent := some indent, inLine := true, afterSpaced := isSpace c }
        let (value, cursor) ← readFrom place within rest (mark.advance 1)
        return (state.separation place c ++ c :: value, cursor)
      else .ok (state.tail place, ⟨c :: rest, mark⟩)

/-- The block scalar whose header starts at a cursor. It belongs to a block collection at the column
`parent`, if it belongs to any. -/
def read (folded : Bool) (parent : Option Nat) (cursor : Cursor) :
    Except SyntaxError (Text × Cursor) := do
  let (header, body) ← readHeader cursor.mark (cursor.advance 1)
  let place : Place :=
    { folded, chomping := header.chomping, start := cursor.mark
      leastIndent := max ((parent.map (· + 1)).getD 0) 1 }
  let indent := header.increment.map (parent.getD 0 + ·)
  readFrom place { indent } body.rest body.mark

end PlaybookRepair.Yaml.BlockScalar
