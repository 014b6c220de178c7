import PlaybookRepair.Number.Numeral
import PlaybookRepair.Yaml.Gap
import PlaybookRepair.Yaml.SyntaxError

/-!
# Quoted scalars

Between single quotes a character stands for itself, a quote being written twice. Between double
quotes a backslash starts an escape: a letter for a control character, a hexadecimal code point, or
a line break, which then counts for nothing. Gaps are folded in both. No line of a quoted scalar may
start with a document sign.
-/

namespace PlaybookRepair.Yaml.QuotedScalar

/-- What the reader is in the middle of. -/
inductive State
  /-- The text of the scalar, after a gap. -/
  | text (gap : Gap)
  /-- An escape, whose backslash stands at the mark. -/
  | escape (backslash : Mark)
  /-- A code point of which digits are missing; the digits start at the mark. -/
  | codePoint (missing value : Nat) (digits : Mark)

/-- The characters that a letter after a backslash stands for. -/
def escapes : List (Char × Char) :=
  [('0', '\x00'), ('a', '\x07'), ('b', '\x08'), ('t', '\t'), ('\t', '\t'), ('n', '\n'),
    ('v', '\x0B'), ('f', '\x0C'), ('r', '\r'), ('e', '\x1B'), (' ', ' '), ('"', '"'), ('/', '/'),
    ('\\', '\\'), ('N', '\u0085'), ('_', '\u00A0'), ('L', '\u2028'), ('P', '\u2029')]

/-- How many hexadecimal digits follow a letter after a backslash. -/
def codePointDigits? (c : Char) : Option Nat :=
  if c = 'x' then some 2 else if c = 'u' then some 4 else if c = 'U' then some 8 else none

/-- Whether a number is a code point that a text may hold. -/
def isCodePoint (value : Nat) : Bool :=
  !(0xD800 ≤ value && value ≤ 0xDFFF) && value ≤ 0x10FFFF

/-- The value of a quoted scalar from the given state on, and the cursor after its closing quote.
The scalar starts at `start` with the character `quote`. -/
def readFrom (quote : Char) (start : Mark) :
    State → Text → Mark → Except SyntaxError (Text × Cursor)
  | .text _, [], mark => fail .quotedScalar start .unexpectedEnd mark
  | .text gap, '\r' :: '\n' :: rest, mark =>
    readFrom quote start (.text (gap.addBreak ['\n'])) rest (mark.newLine 2)
  | .text gap, c :: rest, mark =>
    if isBreak c then
      readFrom quote start (.text (gap.addBreak (breakText c))) rest (mark.newLine 1)
    else if isSpace c then readFrom quote start (.text (gap.addSpace c)) rest (mark.advance 1)
    else if mark.column = 0 && startsDocumentSign (c :: rest) then
      fail .quotedScalar start .unexpectedDocumentSign mark
    else if c = quote then
      match quote, rest with
      | '\'', '\'' :: rest => do
        let (value, cursor) ← readFrom quote start (.text .empty) rest (mark.advance 2)
        return (gap.text ++ '\'' :: value, cursor)
      | _, rest => .ok (gap.text, ⟨rest, mark.advance 1⟩)
    else if quote = '"' && c = '\\' then do
      let (value, cursor) ← readFrom quote start (.escape mark) rest (mark.advance 1)
      return (gap.text ++ value, cursor)
    else do
      let (value, cursor) ← readFrom quote start (.text .empty) rest (mark.advance 1)
      return (gap.text ++ c :: value, cursor)
  | .escape backslash, [], _ => fail .quotedEscape start .unknownEscape backslash
  | .escape _, '\r' :: '\n' :: rest, mark =>
    readFrom quote start (.text .escapedBreak) rest (mark.newLine 2)
  | .escape backslash, c :: rest, mark =>
    if isBreak c then readFrom quote start (.text .escapedBreak) rest (mark.newLine 1)
    else
      match escapes.lookup c with
      | some escaped => do
        let (value, cursor) ← readFrom quote start (.text .empty) rest (mark.advance 1)
        return (escaped :: value, cursor)
      | none =>
        match codePointDigits? c with
        | some count =>
          readFrom quote start (.codePoint count 0 (mark.advance 1)) rest (mark.advance 1)
        | none => fail .quotedEscape start .unknownEscape backslash
  | .codePoint _ _ digits, [], _ => fail .quotedEscape start .expectedHexNumber digits
  | .codePoint missing value digits, c :: rest, mark =>
    match Numeral.digitValue? 16 c with
    | none => fail .quotedEscape start .expectedHexNumber digits
    | some digit =>
      let value := value * 16 + digit
      if missing > 1 then
        readFrom quote start (.codePoint (missing - 1) value digits) rest (mark.advance 1)
      else if isCodePoint value then do
        let (tail, cursor) ← readFrom quote start (.text .empty) rest (mark.advance 1)
        return (Char.ofNat value :: tail, cursor)
      else fail .quotedEscape start .invalidCodePoint digits

/-- The value of the quoted scalar whose opening quote stands at a cursor. -/
def read (quote : Char) (cursor : Cursor) : Except SyntaxError (Text × Cursor) :=
  let inside := cursor.advance 1
  readFrom quote cursor.mark (.text .empty) inside.rest inside.mark

end PlaybookRepair.Yaml.QuotedScalar
