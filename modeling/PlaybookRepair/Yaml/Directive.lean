import PlaybookRepair.Yaml.Tag

/-!
# Directives

A line that starts with a percent sign before a document is a directive. There are two: one gives
the version of YAML, the other gives a tag handle its meaning. A comment may follow on the line.
-/

namespace PlaybookRepair.Yaml.Directive

/-- The longest number of a version. -/
def maxVersionDigits : Nat := 9

/-- A number of a version. -/
def readVersionNumber (start : Mark) (cursor : Cursor) : Except SyntaxError (Nat × Cursor) :=
  let (digits, next) := cursor.span Char.isDigit
  if digits.length > maxVersionDigits then
    fail .versionDirective start .versionNumberTooLong (cursor.mark.advance maxVersionDigits)
  else
    match Numeral.natOfDigits? 10 digits with
    | some value => .ok (value, next)
    | none => fail .versionDirective start .expectedVersionNumber next.mark

/-- The two numbers of a version with the point between them. -/
def readVersion (start : Mark) (cursor : Cursor) : Except SyntaxError (TokenKind × Cursor) := do
  let (major, next) ← readVersionNumber start cursor.skipSpaces
  match next.rest with
  | '.' :: _ =>
    let (minor, next) ← readVersionNumber start (next.advance 1)
    return (.versionDirective major minor, next)
  | _ => fail .versionDirective start .expectedVersionPoint next.mark

/-- A tag handle and the prefix that it stands for. -/
def readTagPrefix (start : Mark) (cursor : Cursor) : Except SyntaxError (TokenKind × Cursor) := do
  let (handle, next) ← Tag.readHandle .tagDirectiveHandle start cursor.skipSpaces
  if handle ≠ ['!'] ∧ ¬ Tag.isNamedHandle handle then
    fail .tagDirectiveHandleEnd start .expectedTagHandle next.mark
  else if !next.rest.head?.any isSpace then
    fail .tagDirective start .expectedSpace next.mark
  else
    let (replacement, next) ← Tag.readSuffix true .tagDirectiveUri start none next.skipSpaces
    if atSeparator next.rest then return (.tagDirective handle replacement, next)
    else fail .tagDirective start .expectedSeparator next.mark

/-- The directive at a cursor, and the cursor at the start of the next line. -/
def read (cursor : Cursor) : Except SyntaxError (TokenKind × Cursor) := do
  let start := cursor.mark
  let (name, next) := (cursor.advance 1).span isNameChar
  if name.isEmpty then fail .directive start .expectedDirectiveName next.mark
  else if !atSeparator next.rest then
    fail .directive start .unexpectedDirectiveCharacter next.mark
  else
    let (token, next) ←
      if name = "YAML".toList then readVersion start next
      else if name = "TAG".toList then readTagPrefix start next
      else fail .directive start .unknownDirective next.mark
    let next := next.skipSpaces.skipComment
    if atLineEnd next.rest then return (token, next.skipBreak)
    else fail .directive start .expectedLineEnd next.mark

end PlaybookRepair.Yaml.Directive
