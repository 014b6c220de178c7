import PlaybookRepair.Text.Basic

/-!
# Values of a configuration text

A configuration text describes a table of values. How a table came to be decides how the rest of the
text may still extend it: a table with a header of its own gets keys only under that header, one that
was only named on the way to another may still get a header, one made by a dotted key only further
dotted keys, and one written inline nothing at all.
-/

namespace PlaybookRepair.Toml

/-- How a table came to be. -/
inductive TableOrigin
  /-- It has a header. -/
  | header
  /-- It was named on the way to the table of a header. -/
  | implied
  /-- It was named by a dotted key. -/
  | dotted
  /-- It was written between braces. -/
  | inlined
deriving Repr, DecidableEq

/-- A value. -/
inductive Value
  | string (text : Text)
  | integer (number : Int)
  /-- A finite or infinite number, or the undefined one; nothing asks which. -/
  | float
  | boolean (truth : Bool)
  /-- A date, a time or both. -/
  | moment
  /-- A sequence; one of tables with headers can be extended by a header. -/
  | array (ofTables : Bool) (items : List Value)
  | table (origin : TableOrigin) (entries : List (Text × Value))
deriving Repr

/-- The entries of a table, each key occurring once. -/
abbrev Entries := List (Text × Value)

/-- Why a text is no configuration text. -/
inductive Fault
  | unterminatedString
  | unknownEscape
  | invalidCodePoint
  | invalidCharacter
  | expectedKey
  | expectedEquals
  | expectedValue
  | expectedLineEnd
  | expectedHeaderEnd
  | expectedItemEnd
  | nestedTooDeeply
  | numberOutOfRange
  | duplicateKey
  /-- A value that cannot be extended is extended. -/
  | notExtensible
deriving Repr, DecidableEq

/-- The wording of a fault. -/
def Fault.message : Fault → String
  | unterminatedString => "unterminated string"
  | unknownEscape => "unknown escape"
  | invalidCodePoint => "invalid code point"
  | invalidCharacter => "invalid character"
  | expectedKey => "expected a key"
  | expectedEquals => "expected an equals sign"
  | expectedValue => "expected a value"
  | expectedLineEnd => "expected the end of the line"
  | expectedHeaderEnd => "expected the end of the table header"
  | expectedItemEnd => "expected a comma or a closing bracket"
  | nestedTooDeeply => "values are nested too deeply"
  | numberOutOfRange => "number out of range"
  | duplicateKey => "duplicate key"
  | notExtensible => "value cannot be extended"

/-- A reader takes a part off the front of a text. -/
abbrev Reader (α : Type) := Text → Except Fault (α × Text)

end PlaybookRepair.Toml
