import PlaybookRepair.Number.Numeral

/-!
# Inline values

An inline value is what stands after a key on the key's own line. This module says when it is only
the header of a block scalar, when the value of the key is rather on the lines below, and how a value
is written so that it reads back as itself.

A value that starts with a template expression would read as a flow mapping, and a plain value with
a colon before a blank or at its end as a nested mapping; such values are written between double
quotes.
-/

namespace PlaybookRepair.InlineValue

/-- The value without a trailing comment and the blanks before it. -/
def withoutComment (value : Text) : Text := Text.trimEnd (Text.before " #".toList value)

/-- Whether a value is the header of a block scalar: the sign of a literal or folded scalar with
digits and chomping signs, and perhaps a comment. -/
def isBlockIndicator (value : Text) : Bool :=
  match withoutComment value with
  | c :: rest => (c = '|' || c = '>') && rest.all fun c => c = '+' || c = '-' || c.isDigit
  | [] => false

/-- Whether a key with this value owns the lines below it. -/
def opensBlock (value : Text) : Bool :=
  value.isEmpty || value.head? = some '#' || isBlockIndicator value

/-- The value between double quotes. -/
def doubleQuoted (value : Text) : Text :=
  '"' :: value.flatMap (fun c => if c = '\\' || c = '"' then ['\\', c] else [c]) ++ ['"']

/-- The value, between double quotes if it starts with a template expression. -/
def quoteTemplate (value : Text) : Text :=
  if ['{', '{'].isPrefixOf value then doubleQuoted value else value

/-- Whether a value starts as a quoted scalar or a flow collection. -/
def isStructured (value : Text) : Bool :=
  value.head?.any fun c => c = '"' || c = '\'' || c = '[' || c = '{'

/-- A value as it can stand after a key. -/
def quoteMapping (value : Text) : Text :=
  let content := withoutComment value
  if !isStructured value && (Text.holds ": ".toList content || content.getLast? = some ':') then
    doubleQuoted value
  else quoteTemplate value

/-- What stands between two quotes of the given kind around a value, if no such quote is inside. -/
def insideQuotes? (quote : Char) (value : Text) : Option Text :=
  match value with
  | c :: rest =>
    if c = quote && rest.getLast? = some quote && !rest.dropLast.contains quote then
      some rest.dropLast
    else none
  | [] => none

/-- The value without one pair of quotes around it. -/
def stripQuotes (value : Text) : Text :=
  ((insideQuotes? '"' value).or (insideQuotes? '\'' value)).getD value

/-- Plain words, in small letters, that do not read as strings everywhere. -/
def reservedWords : List Text :=
  ["true", "false", "yes", "no", "on", "off", "null", "~"].map String.toList

/-- The signs that a plain value may not start with. -/
def indicators : Text := "-?:,[]\x7b\x7d#&*!|>'\"%@\x60".toList

/-- Whether a string has to be quoted in order to read back as itself. -/
def needsQuotes (value : Text) : Bool :=
  value.isEmpty || Text.trim value ≠ value || value.head?.any indicators.contains ||
    Text.holds ": ".toList value || Text.holds " #".toList value || value.getLast? = some ':' ||
    reservedWords.contains (Text.lowerAscii value) || Numeral.isFloatLiteral value

/-- A string as a plain scalar if that reads back as the string, otherwise between double quotes. -/
def plainOrQuoted (value : Text) : Text :=
  if needsQuotes value then doubleQuoted value else value

end PlaybookRepair.InlineValue
