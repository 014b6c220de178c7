import PlaybookRepair.Yaml.Gap
import PlaybookRepair.Yaml.SyntaxError

/-!
# Plain scalars

A plain scalar has no quotes. It ends before a colon that a separating character follows, inside a
flow collection also before the signs of the collection, and after a gap before a comment, before a
document sign and, in block context, at a line that is not indented far enough.
-/

namespace PlaybookRepair.Yaml

/-- A scalar without quotes, and how its reading ended. -/
structure PlainScalar where
  value : Text
  /-- The gap after the scalar breaks the line. -/
  endsLine : Bool
  cursor : Cursor
deriving Repr, DecidableEq

namespace PlainScalar

/-- Where a plain scalar stands. -/
structure Place where
  /-- Inside a flow collection. -/
  inFlow : Bool
  /-- The least column of its continuation lines. -/
  indent : Nat
  start : Mark

/-- The signs of flow collections, before which a plain scalar inside one ends. -/
def isFlowSign (c : Char) : Bool := c = ',' || c = '[' || c = ']' || c = '{' || c = '}'

/-- Whether a colon is followed by a sign that may not follow it inside a flow collection. -/
def isColonBeforeSign : Text → Bool
  | ':' :: c :: _ => isFlowSign c || c = '?'
  | _ => false

/-- Whether the scalar ends before this text, wherever that stands. -/
def endsBefore (inFlow : Bool) : Text → Bool
  | [] => true
  | c :: rest => (c = ':' && atSeparator rest) || (inFlow && isFlowSign c)

/-- Whether the scalar ends before this text when it stands after a gap. -/
def endsAfterGap (place : Place) (mark : Mark) (text : Text) : Bool :=
  (!place.inFlow && mark.column < place.indent) || text.head? = some '#' ||
    (mark.column = 0 && startsDocumentSign text)

/-- The scalar from a character on, before which there is a gap. -/
def readFrom (place : Place) (gap : Gap) : Text → Mark → Except SyntaxError PlainScalar
  | [], mark => .ok ⟨[], gap.broken, ⟨[], mark⟩⟩
  | '\r' :: '\n' :: rest, mark =>
    readFrom place (gap.addBreak ['\n']) rest (mark.newLine 2)
  | c :: rest, mark =>
    if isBreak c then readFrom place (gap.addBreak (breakText c)) rest (mark.newLine 1)
    else if isSpace c then
      if gap.broken && mark.column < place.indent && c = '\t' then
        fail .plainScalar place.start .tabBeforeIndentation mark
      else readFrom place (gap.addSpace c) rest (mark.advance 1)
    else if !gap.isEmpty && endsAfterGap place mark (c :: rest) then
      .ok ⟨[], gap.broken, ⟨c :: rest, mark⟩⟩
    else if place.inFlow && isColonBeforeSign (c :: rest) then
      fail .plainScalar place.start .unexpectedColon mark
    else if endsBefore place.inFlow (c :: rest) then .ok ⟨[], gap.broken, ⟨c :: rest, mark⟩⟩
    else do
      let scalar ← readFrom place .empty rest (mark.advance 1)
      return { scalar with value := gap.text ++ c :: scalar.value }

/-- The plain scalar that starts at a cursor. -/
def read (inFlow : Bool) (indent : Nat) (cursor : Cursor) : Except SyntaxError PlainScalar :=
  readFrom ⟨inFlow, indent, cursor.mark⟩ .empty cursor.rest cursor.mark

end PlainScalar

end PlaybookRepair.Yaml
