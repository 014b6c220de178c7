import PlaybookRepair.Text.Line

/-!
# Keys of lines

The content of a line may start with a list marker, a hyphen before a space or alone. The rest of it
is the body of the line, which may have a key: a name or a text between quotes, followed by a colon
and, after a space or tab, by a value. A name starts with an ASCII letter or an underscore and goes
on with word characters, full stops, hyphens and slashes.
-/

namespace PlaybookRepair

namespace KeyedLine

/-- The characters that a name can start with. -/
def isKeyStart (c : Char) : Bool := c.isAlpha || c = '_'

/-- The characters that a name can go on with. -/
def isKeyChar (c : Char) : Bool := Text.isWordChar c || c = '.' || c = '-' || c = '/'

/-- Spaces and tabs, which may stand around the colon. -/
def isGap (c : Char) : Bool := c = ' ' || c = '\t'

/-- A key between quotes, and what follows it; the opening quote has been read. -/
def splitQuotedKey? (quote : Char) (text : Text) : Option (Text × Text) :=
  let inside := text.takeWhile (· ≠ quote)
  match text.dropWhile (· ≠ quote) with
  | _ :: rest => if inside.isEmpty then none else some (quote :: inside ++ [quote], rest)
  | [] => none

/-- The key at the start of a body, and what follows it. -/
def splitKey? (body : Text) : Option (Text × Text) :=
  match body with
  | '"' :: rest => splitQuotedKey? '"' rest
  | '\'' :: rest => splitQuotedKey? '\'' rest
  | c :: rest =>
    if isKeyStart c then some (c :: rest.takeWhile isKeyChar, rest.dropWhile isKeyChar) else none
  | [] => none

/-- The value after a colon: nothing at all, or a trimmed text after a space or tab. -/
def valueAfterColon? (text : Text) : Option Text :=
  match text with
  | [] => some []
  | c :: rest => if isGap c && !rest.contains '\n' then some (Text.trim rest) else none

/-- The key and the value of a body, if it has a key. A quoted key keeps its quotes. -/
def splitKeyValue? (body : Text) : Option (Text × Text) :=
  match splitKey? body with
  | some (key, rest) =>
    match rest.dropWhile isGap with
    | ':' :: rest => (valueAfterColon? rest).map (key, ·)
    | _ => none
  | none => none

end KeyedLine

/-- What a line shows on its own. -/
structure LineFacts where
  line : Line
  /-- The content starts with a list marker. -/
  dashed : Bool
  /-- The content without its list marker. -/
  body : Text
  /-- The key of the body, if it has one. -/
  key : Option Text
  /-- The value after the key; empty without a key. -/
  value : Text
deriving Repr, DecidableEq

namespace LineFacts

/-- Whether a content starts with a list marker. -/
def isDashed (content : Text) : Bool := content = ['-'] || ['-', ' '].isPrefixOf content

/-- The facts of a line. -/
def ofLine (line : Line) : LineFacts :=
  let content := line.content
  let dashed := isDashed content
  let body := if dashed then Text.trimStart (content.drop 1) else content
  let split := KeyedLine.splitKeyValue? body
  { line, dashed, body, key := split.map (·.1), value := (split.map (·.2)).getD [] }

/-- The trimmed content of the line. -/
def content (facts : LineFacts) : Text := facts.line.content

/-- The source column of the line's content. -/
def indent (facts : LineFacts) : Nat := facts.line.indent

/-- Whether the line has the given key. -/
def hasKey (facts : LineFacts) (key : String) : Bool := facts.key = some key.toList

end LineFacts

end PlaybookRepair
