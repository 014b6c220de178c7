import PlaybookRepair.Yaml.Cursor

/-!
# YAML tokens

A token is what the text says at one place: an indicator, a directive, a name or a scalar, or the
start or end of a block collection, which indentation alone makes visible.
-/

namespace PlaybookRepair.Yaml

/-- How a scalar is written. -/
inductive ScalarStyle
  | plain
  | singleQuoted
  | doubleQuoted
  | literal
  | folded
deriving Repr, DecidableEq

/-- The octets of a tag, in which escapes may have put any sequence. -/
abbrev Octets := List UInt8

/-- The octets of a text in UTF-8. -/
def Octets.ofText (text : Text) : Octets := text.flatMap String.utf8EncodeChar

/-- What a token says. -/
inductive TokenKind
  | streamEnd
  | versionDirective (major minor : Nat)
  | tagDirective (handle : Text) (replacement : Octets)
  | documentStart
  | documentEnd
  | blockSequenceStart
  | blockMappingStart
  | blockEnd
  | flowSequenceStart
  | flowSequenceEnd
  | flowMappingStart
  | flowMappingEnd
  | blockEntry
  | flowEntry
  | key
  | value
  | reference (name : Text)
  | anchor (name : Text)
  | tag (handle : Text) (suffix : Octets)
  | scalar (value : Text) (style : ScalarStyle)
deriving Repr, DecidableEq

/-- A token and the position at which it starts. -/
structure Token where
  kind : TokenKind
  start : Mark
deriving Repr, DecidableEq

/-- The position after a token that is a single character. -/
def Token.after (token : Token) : Mark := token.start.advance 1

end PlaybookRepair.Yaml
