import PlaybookRepair.Text.Basic

/-!
# Positions in a YAML text

A mark is a position in a text, counted in characters and in lines and columns. A cursor is a mark
together with the text from there on; all reading of YAML moves cursors forward. The end of the
text counts as a line end wherever a line break may stand.
-/

namespace PlaybookRepair.Yaml

/-- A position in a text, each count starting at zero. -/
structure Mark where
  index : Nat
  line : Nat
  column : Nat
deriving Repr, DecidableEq

namespace Mark

/-- The start of a text. -/
def start : Mark := ⟨0, 0, 0⟩

/-- The position after `width` characters of the same line. -/
def advance (mark : Mark) (width : Nat) : Mark :=
  { mark with index := mark.index + width, column := mark.column + width }

/-- The start of the next line, after a line break of `width` characters. -/
def newLine (mark : Mark) (width : Nat) : Mark := ⟨mark.index + width, mark.line + 1, 0⟩

/-- A position as messages give it; the very start of a text is not mentioned. -/
def suffix (mark : Mark) : String :=
  if mark.line = 0 ∧ mark.column = 0 then ""
  else s!" at line {mark.line + 1} column {mark.column + 1}"

end Mark

/-- A position and the text that follows it. -/
structure Cursor where
  rest : Text
  mark : Mark
deriving Repr, DecidableEq

/-- Spaces and tabs separate tokens within a line. -/
def isSpace (c : Char) : Bool := c = ' ' || c = '\t'

/-- The characters that break a line. -/
def isBreak (c : Char) : Bool :=
  c = '\n' || c = '\r' || c = '\u0085' || c = '\u2028' || c = '\u2029'

/-- Separating characters of either kind. -/
def isSeparator (c : Char) : Bool := isSpace c || isBreak c

/-- The characters of names: ASCII letters and digits, the underscore and the hyphen. -/
def isNameChar (c : Char) : Bool := c.isAlphanum || c = '_' || c = '-'

/-- A line break as it counts in a scalar: the two separators stand for themselves, every other
break for a line feed. -/
def breakText (c : Char) : Text := if c = '\u2028' || c = '\u2029' then [c] else ['\n']

/-- Whether a text is at its end or starts with a line break. -/
def atLineEnd : Text → Bool
  | [] => true
  | c :: _ => isBreak c

/-- Whether a text is at its end or starts with a separating character. -/
def atSeparator : Text → Bool
  | [] => true
  | c :: _ => isSeparator c

/-- Whether a text starts with three times the given sign and then ends or goes on with a
separating character. At the start of a line three hyphens begin a document and three full stops
end one. -/
def isDocumentSign (sign : Char) : Text → Bool
  | a :: b :: c :: rest => a = sign && b = sign && c = sign && atSeparator rest
  | _ => false

/-- Whether a line starts with either document sign. -/
def startsDocumentSign (text : Text) : Bool := isDocumentSign '-' text || isDocumentSign '.' text

namespace Cursor

/-- The cursor `width` characters further on the same line. -/
def advance (cursor : Cursor) (width : Nat) : Cursor :=
  ⟨cursor.rest.drop width, cursor.mark.advance width⟩

/-- The characters from the cursor on for which `p` holds, and the cursor after them; none of them
may be a line break. -/
def span (p : Char → Bool) (cursor : Cursor) : Text × Cursor :=
  let taken := cursor.rest.takeWhile p
  (taken, ⟨cursor.rest.dropWhile p, cursor.mark.advance taken.length⟩)

/-- The cursor after spaces and tabs. -/
def skipSpaces (cursor : Cursor) : Cursor := (cursor.span isSpace).2

/-- The cursor at the end of the line. -/
def skipLine (cursor : Cursor) : Cursor := (cursor.span fun c => !isBreak c).2

/-- The cursor after a line break, if it stands at one. -/
def skipBreak (cursor : Cursor) : Cursor :=
  match cursor.rest with
  | '\r' :: '\n' :: rest => ⟨rest, cursor.mark.newLine 2⟩
  | c :: rest => if isBreak c then ⟨rest, cursor.mark.newLine 1⟩ else cursor
  | [] => cursor

/-- The cursor at the end of the line, past a comment that starts here. -/
def skipComment (cursor : Cursor) : Cursor :=
  match cursor.rest with
  | '#' :: _ => cursor.skipLine
  | _ => cursor

end Cursor

end PlaybookRepair.Yaml
