import PlaybookRepair.Number.Numeral
import PlaybookRepair.Toml.Value

/-!
# Quoted strings

A string is written in one of four styles: between double quotes, where a backslash starts an escape,
or between single quotes, where every character stands for itself; and either on one line between
single delimiters or on several lines between triple ones. A line feed right after a triple delimiter
does not count, and up to two quotes may stand right before the closing one.

A string is written in the first style that needs no escape, in the order in which `StringStyle.all`
lists them, and between double quotes if there is none.
-/

namespace PlaybookRepair.Toml

/-- How a string is written. -/
inductive StringStyle
  | basic
  | literal
  | basicLines
  | literalLines
deriving Repr, DecidableEq

namespace QuotedString

/-- Whether a character may stand for itself in a string or a comment, line ends aside. -/
def isVisible (c : Char) : Bool := c = '\t' || (0x20 ≤ c.toNat && c.toNat ≠ 0x7F)

/-! ## Reading -/

/-- The characters that a letter after a backslash stands for. -/
def escapes : List (Char × Char) :=
  [('b', '\x08'), ('t', '\t'), ('n', '\n'), ('f', '\x0C'), ('r', '\r'), ('e', '\x1B'), ('"', '"'),
    ('\\', '\\')]

/-- The character with the code point that the digits write. -/
def codePoint (digits : Text) : Except Fault Char :=
  match Numeral.natOfDigits? 16 digits with
  | none => .error .unknownEscape
  | some code => if code.isValidChar then .ok (.ofNat code) else .error .invalidCodePoint

/-- The character that a letter after a backslash stands for. -/
def escaped (letter : Char) : Except Fault Char :=
  match escapes.lookup letter with
  | some c => .ok c
  | none => .error .unknownEscape

/-- A string that starts with a character and goes on as read. -/
def startingWith (c : Char) (rest : Except Fault (Text × Text)) : Except Fault (Text × Text) :=
  rest.map fun (text, after) => (c :: text, after)

/-- Reads a string up to its closing double quote. -/
def basicFrom : Reader Text
  | [] => .error .unterminatedString
  | '"' :: rest => .ok ([], rest)
  | '\\' :: 'x' :: a :: b :: rest => do startingWith (← codePoint [a, b]) (basicFrom rest)
  | '\\' :: 'u' :: a :: b :: c :: d :: rest => do
    startingWith (← codePoint [a, b, c, d]) (basicFrom rest)
  | '\\' :: 'U' :: a :: b :: c :: d :: e :: f :: g :: h :: rest => do
    startingWith (← codePoint [a, b, c, d, e, f, g, h]) (basicFrom rest)
  | '\\' :: letter :: rest => do startingWith (← escaped letter) (basicFrom rest)
  | c :: rest =>
    if isVisible c then startingWith c (basicFrom rest)
    else if c = '\n' || c = '\r' then .error .unterminatedString
    else .error .invalidCharacter

/-- Reads a string up to its closing single quote. -/
def literalFrom : Reader Text
  | [] => .error .unterminatedString
  | '\'' :: rest => .ok ([], rest)
  | c :: rest =>
    if isVisible c then startingWith c (literalFrom rest)
    else if c = '\n' || c = '\r' then .error .unterminatedString
    else .error .invalidCharacter

/-- Whether only blanks stand before the end of the line. -/
def isLineEnd (text : Text) : Bool :=
  match text.dropWhile fun c => c = ' ' || c = '\t' with
  | '\n' :: _ => true
  | '\r' :: '\n' :: _ => true
  | _ => false

/-- Reads a string up to its closing triple double quote. A backslash at the end of a line makes the
reader skip the blanks and line ends that follow. -/
def basicLinesFrom (skipping : Bool) : Reader Text
  | [] => .error .unterminatedString
  | '"' :: '"' :: '"' :: '"' :: '"' :: rest => .ok (['"', '"'], rest)
  | '"' :: '"' :: '"' :: '"' :: rest => .ok (['"'], rest)
  | '"' :: '"' :: '"' :: rest => .ok ([], rest)
  | '\\' :: 'x' :: a :: b :: rest => do
    startingWith (← codePoint [a, b]) (basicLinesFrom false rest)
  | '\\' :: 'u' :: a :: b :: c :: d :: rest => do
    startingWith (← codePoint [a, b, c, d]) (basicLinesFrom false rest)
  | '\\' :: 'U' :: a :: b :: c :: d :: e :: f :: g :: h :: rest => do
    startingWith (← codePoint [a, b, c, d, e, f, g, h]) (basicLinesFrom false rest)
  | '\\' :: letter :: rest =>
    if isLineEnd (letter :: rest) then
      if letter = '\r' then basicLinesFrom true (letter :: rest) else basicLinesFrom true rest
    else do startingWith (← escaped letter) (basicLinesFrom false rest)
  | '\r' :: '\n' :: rest =>
    if skipping then basicLinesFrom true rest
    else startingWith '\r' (startingWith '\n' (basicLinesFrom false rest))
  | c :: rest =>
    if skipping && (c = ' ' || c = '\t' || c = '\n') then basicLinesFrom true rest
    else if isVisible c || c = '\n' then startingWith c (basicLinesFrom false rest)
    else .error .invalidCharacter

/-- Reads a string up to its closing triple single quote. -/
def literalLinesFrom : Reader Text
  | [] => .error .unterminatedString
  | '\'' :: '\'' :: '\'' :: '\'' :: '\'' :: rest => .ok (['\'', '\''], rest)
  | '\'' :: '\'' :: '\'' :: '\'' :: rest => .ok (['\''], rest)
  | '\'' :: '\'' :: '\'' :: rest => .ok ([], rest)
  | '\r' :: '\n' :: rest => startingWith '\r' (startingWith '\n' (literalLinesFrom rest))
  | c :: rest =>
    if isVisible c || c = '\n' then startingWith c (literalLinesFrom rest)
    else .error .invalidCharacter

/-- The text without the line end that it starts with. -/
def withoutFirstBreak : Text → Text
  | '\n' :: rest => rest
  | '\r' :: '\n' :: rest => rest
  | rest => rest

/-- Reads a quoted string; nothing is read from a text that does not start with a quote. -/
def read? : Text → Option (Except Fault (Text × Text))
  | '"' :: '"' :: '"' :: rest => some (basicLinesFrom false (withoutFirstBreak rest))
  | '\'' :: '\'' :: '\'' :: rest => some (literalLinesFrom (withoutFirstBreak rest))
  | '"' :: rest => some (basicFrom rest)
  | '\'' :: rest => some (literalFrom rest)
  | _ => none

/-! ## Writing -/

/-- The length of the longest run of a character in a text, the first run being longer by `run` than
what is seen of it. -/
def longestRun (quote : Char) (run : Nat) : Text → Nat
  | [] => run
  | c :: rest =>
    if c = quote then longestRun quote (run + 1) rest else max run (longestRun quote 0 rest)

/-- Whether a text can be written in a style without escapes. -/
def fits (text : Text) : StringStyle → Bool
  | .basic =>
    text.all fun c => (isVisible c && c ≠ '"' && c ≠ '\\')
  | .literal => text.all fun c => isVisible c && c ≠ '\''
  | .basicLines =>
    (text.all fun c => (isVisible c || c = '\n') && c ≠ '\\') && longestRun '"' 0 text ≤ 2
  | .literalLines => (text.all fun c => isVisible c || c = '\n') && longestRun '\'' 0 text ≤ 2

/-- The styles in the order of preference. -/
def styles : List StringStyle := [.basic, .literal, .basicLines, .literalLines]

/-- The style in which a text is written. -/
def styleOf (text : Text) : StringStyle :=
  (styles.find? (fits text)).getD (if text.contains '\n' then .basicLines else .basic)

/-- What a string is written between. -/
def delimiter : StringStyle → Text
  | .basic => ['"']
  | .literal => ['\'']
  | .basicLines => ['"', '"', '"']
  | .literalLines => ['\'', '\'', '\'']

/-- A code point as the digits of an escape. -/
def codePointDigits (code : Nat) : Text :=
  let digits := (Nat.toDigits 16 code).map Char.toUpper
  List.replicate (4 - digits.length) '0' ++ digits

/-- A character between double quotes. -/
def escapedChar (c : Char) : Text :=
  match c with
  | '\x08' => ['\\', 'b']
  | '\t' => ['\\', 't']
  | '\n' => ['\\', 'n']
  | '\x0C' => ['\\', 'f']
  | '\r' => ['\\', 'r']
  | '"' => ['\\', '"']
  | '\\' => ['\\', '\\']
  | c => if isVisible c then [c] else '\\' :: 'u' :: codePointDigits c.toNat

/-- A text between triple double quotes, after `quotes` of them in a row. No more than two quotes
stand in a row without an escape. -/
def escapedLines (quotes : Nat) : Text → Text
  | [] => []
  | '"' :: rest =>
    if quotes < 2 then '"' :: escapedLines (quotes + 1) rest
    else '\\' :: '"' :: escapedLines 0 rest
  | '\n' :: rest => '\n' :: escapedLines 0 rest
  | c :: rest => escapedChar c ++ escapedLines 0 rest

/-- A text between the delimiters of a style. -/
def body (text : Text) : StringStyle → Text
  | .basic => text.flatMap escapedChar
  | .basicLines => escapedLines 0 text
  | .literal | .literalLines => text

/-- Whether a style writes a text on lines of its own. -/
def startsLine (text : Text) : StringStyle → Bool
  | .basic | .literal => false
  | .basicLines | .literalLines => text.contains '\n'

/-- A text as a quoted string. -/
def write (text : Text) : Text :=
  let style := styleOf text
  delimiter style ++ (if startsLine text style then ['\n'] else []) ++ body text style ++
    delimiter style

end QuotedString

end PlaybookRepair.Toml
