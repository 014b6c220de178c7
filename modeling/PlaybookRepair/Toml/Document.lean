import PlaybookRepair.Toml.QuotedString
import PlaybookRepair.Toml.Scalar
import PlaybookRepair.Toml.Table

/-!
# Reading a configuration text

A configuration text is a sequence of lines: pairs of a key and a value, and headers that say to
which table the pairs after them belong. Sequences and tables can also be written inline, over as many
lines as they need, down to a limited depth.
-/

namespace PlaybookRepair.Toml

namespace Document

/-! ## Gaps -/

/-- Whether a character separates words on a line. -/
def isSpace (c : Char) : Bool := c = ' ' || c = '\t'

/-- The text without the spaces it starts with. -/
def skipSpaces (text : Text) : Text := text.dropWhile isSpace

/-- The text without the spaces, line ends and comments it starts with. -/
def skipGap (inComment : Bool) : Text → Except Fault Text
  | [] => .ok []
  | '\r' :: '\n' :: rest => skipGap false rest
  | '\n' :: rest => skipGap false rest
  | c :: rest =>
    if inComment then
      if QuotedString.isVisible c then skipGap true rest else .error .invalidCharacter
    else if isSpace c then skipGap false rest
    else if c = '#' then skipGap true rest
    else .ok (c :: rest)

/-- The text after the rest of a line, which holds at most a comment. -/
def skipLineEnd (text : Text) : Except Fault Text :=
  match skipSpaces text with
  | [] => .ok []
  | '\n' :: rest => .ok rest
  | '\r' :: '\n' :: rest => .ok rest
  | '#' :: rest => skipGap true rest
  | _ => .error .expectedLineEnd

/-! ## Keys -/

/-- Whether a character can stand in a key without quotes. -/
def isKeyChar (c : Char) : Bool := c.isAlphanum || c = '_' || c = '-'

/-- Reads one part of a dotted key. -/
def keyPart : Reader Text := fun text =>
  match text with
  | '"' :: rest => QuotedString.basicFrom rest
  | '\'' :: rest => QuotedString.literalFrom rest
  | text =>
    let key := text.takeWhile isKeyChar
    if key.isEmpty then .error .expectedKey else .ok (key, text.drop key.length)

/-- Reads a dotted key of at most `fuel` parts: the path to its last part, and that part. -/
def dottedKey : Nat → Reader (List Text × Text)
  | 0, _ => .error .expectedKey
  | fuel + 1, text => do
    let (first, rest) ← keyPart (skipSpaces text)
    match skipSpaces rest with
    | '.' :: more => do
      let ((path, key), rest) ← dottedKey fuel more
      return ((first :: path, key), rest)
    | rest => return (([], first), rest)

/-- Reads a pair, given a reader for its value. -/
def pair (value : Reader Value) : Reader Pair := fun text => do
  let ((path, key), rest) ← dottedKey text.length text
  match rest with
  | '=' :: rest => do
    let (value, rest) ← value (skipSpaces rest)
    return (⟨path, key, value⟩, rest)
  | _ => .error .expectedEquals

/-! ## Values -/

/-- Reads the rest of a sequence of at most `fuel` items up to its closing bracket, each of them
followed by a comma except perhaps the last. -/
def items {α : Type} (closing : Char) (item : Reader α) : Nat → Reader (List α)
  | 0, _ => .error .expectedItemEnd
  | fuel + 1, text => do
    match ← skipGap false text with
    | [] => .error .expectedItemEnd
    | c :: rest =>
      if c = closing then return ([], rest)
      let (first, rest) ← item (c :: rest)
      match ← skipGap false rest with
      | [] => .error .expectedItemEnd
      | c :: rest =>
        if c = closing then return ([first], rest)
        if c ≠ ',' then throw .expectedItemEnd
        let (more, rest) ← items closing item fuel rest
        return (first :: more, rest)

/-- Reads a value that is nested at most to the given depth. -/
def value : Nat → Reader Value
  | 0, text =>
    match text with
    | '[' :: _ | '\x7b' :: _ => .error .nestedTooDeeply
    | text => plain text
  | depth + 1, text =>
    match text with
    | '[' :: rest => do
      let (inside, rest) ← items ']' (value depth) text.length rest
      return (.array false inside, rest)
    | '\x7b' :: rest => do
      let (pairs, rest) ← items '\x7d' (pair (value depth)) text.length rest
      return (.table .inlined (← Entries.addPairs .inlined [] pairs), rest)
    | text => plain text
where
  /-- Reads a value that holds no others. -/
  plain (text : Text) : Except Fault (Value × Text) :=
    match QuotedString.read? text with
    | some string => string.map fun (text, rest) => (.string text, rest)
    | none => Scalar.read text

/-- How deeply values may be nested. -/
def depthLimit : Nat := 80

/-! ## Lines -/

/-- What a line says. -/
inductive Statement
  | header (header : Header)
  | pair (pair : Pair)

/-- Reads a header after its opening brackets, up to its closing ones. -/
def header (isItem : Bool) (closing : Text) : Reader Header := fun text => do
  let ((path, key), rest) ← dottedKey text.length text
  if closing.isPrefixOf rest then return (⟨path, key, isItem⟩, rest.drop closing.length)
  else throw .expectedHeaderEnd

/-- Reads the statement that a text starts with. -/
def statement : Reader Statement := fun text =>
  match text with
  | '[' :: '[' :: rest => (header true [']', ']'] rest).map fun (h, rest) => (.header h, rest)
  | '[' :: rest => (header false [']'] rest).map fun (h, rest) => (.header h, rest)
  | text => (pair (value depthLimit) text).map fun (p, rest) => (.pair p, rest)

/-- The statements of a text, of which at most `fuel` are read. -/
def statements : Nat → Text → Except Fault (List Statement)
  | 0, _ => .ok []
  | fuel + 1, text => do
    match ← skipGap false text with
    | [] => return []
    | text =>
      let (first, rest) ← statement text
      return first :: (← statements fuel (← skipLineEnd rest))

/-- The pairs before the first header, and each header with the pairs after it. -/
def sections : List Statement → List Pair × List (Header × List Pair)
  | [] => ([], [])
  | .pair pair :: rest => ((pair :: (sections rest).1), (sections rest).2)
  | .header header :: rest => ([], (header, (sections rest).1) :: (sections rest).2)

/-- The mark that a text may start with. -/
def byteOrderMark : Char := '\uFEFF'

/-- The table that a text describes. -/
def read (text : Text) : Except Fault Entries := do
  let text := if text.head? = some byteOrderMark then text.tail else text
  let (pairs, sections) := sections (← statements (text.length + 1) text)
  let root ← Entries.addPairs .header [] pairs
  sections.foldlM (fun root (header, pairs) => root.addSection header pairs) root

end Document

end PlaybookRepair.Toml
