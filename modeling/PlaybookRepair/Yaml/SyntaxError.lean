import PlaybookRepair.Yaml.Cursor

/-!
# Errors of YAML syntax

A text is no YAML stream either because it holds a character that YAML forbids or because of a
problem at some position. A problem may be met in the course of an activity, such as reading a
quoted scalar, whose starting position is then part of the error.
-/

namespace PlaybookRepair.Yaml

/-- What is wrong at a position. -/
inductive Problem
  | simpleKeyWithoutColon
  | blockEntryNotAllowed
  | mappingKeyNotAllowed
  | mappingValueNotAllowed
  | noTokenStart
  | unknownDirective
  | expectedLineEnd
  | expectedDirectiveName
  | unexpectedDirectiveCharacter
  | expectedVersionPoint
  | versionNumberTooLong
  | expectedVersionNumber
  | expectedSpace
  | expectedSeparator
  | expectedName
  | expectedTagClose
  | expectedTagHandle
  | expectedTagUri
  | expectedEscapedOctet
  | invalidLeadingOctet
  | invalidTrailingOctet
  | zeroIndentation
  | tabInIndentation
  | unexpectedDocumentSign
  | unexpectedEnd
  | unknownEscape
  | expectedHexNumber
  | invalidCodePoint
  | unexpectedColon
  | tabBeforeIndentation
  | expectedDocumentStart
  | expectedNode
  | undefinedTagHandle
  | expectedBlockEntry
  | expectedKey
  | expectedSequenceEnd
  | expectedMappingEnd
  | duplicateVersion
  | incompatibleVersion
  | duplicateTagHandle
deriving Repr, DecidableEq

/-- What was being read when a problem was met. -/
inductive Activity
  | simpleKey
  | nextToken
  | directive
  | versionDirective
  | tagDirective
  | tagDirectiveHandle
  | tagDirectiveHandleEnd
  | tagDirectiveUri
  | tag
  | tagUri
  | anchor
  | reference
  | blockScalar
  | quotedScalar
  | quotedEscape
  | plainScalar
  | node
  | blockNode
  | flowNode
  | blockSequence
  | blockMapping
  | flowSequence
  | flowMapping
deriving Repr, DecidableEq

/-- Why a text is no YAML stream. -/
inductive SyntaxError
  /-- A forbidden character, by its offset in the UTF-8 form of the text. -/
  | forbiddenCharacter (offset : Nat)
  /-- A problem at a position, met in the course of an activity that started at another one. -/
  | problem (cause : Problem) (mark : Mark) (during : Option (Activity × Mark))
deriving Repr, DecidableEq

/-- The wording of a problem. -/
def Problem.message : Problem → String
  | simpleKeyWithoutColon => "could not find expected ':'"
  | blockEntryNotAllowed => "block sequence entries are not allowed in this context"
  | mappingKeyNotAllowed => "mapping keys are not allowed in this context"
  | mappingValueNotAllowed => "mapping values are not allowed in this context"
  | noTokenStart => "found character that cannot start any token"
  | unknownDirective => "found unknown directive name"
  | expectedLineEnd => "did not find expected comment or line break"
  | expectedDirectiveName => "could not find expected directive name"
  | unexpectedDirectiveCharacter => "found unexpected non-alphabetical character"
  | expectedVersionPoint => "did not find expected digit or '.' character"
  | versionNumberTooLong => "found extremely long version number"
  | expectedVersionNumber => "did not find expected version number"
  | expectedSpace => "did not find expected whitespace"
  | expectedSeparator => "did not find expected whitespace or line break"
  | expectedName => "did not find expected alphabetic or numeric character"
  | expectedTagClose => "did not find the expected '>'"
  | expectedTagHandle => "did not find expected '!'"
  | expectedTagUri => "did not find expected tag URI"
  | expectedEscapedOctet => "did not find URI escaped octet"
  | invalidLeadingOctet => "found an incorrect leading UTF-8 octet"
  | invalidTrailingOctet => "found an incorrect trailing UTF-8 octet"
  | zeroIndentation => "found an indentation indicator equal to 0"
  | tabInIndentation => "found a tab character where an indentation space is expected"
  | unexpectedDocumentSign => "found unexpected document indicator"
  | unexpectedEnd => "found unexpected end of stream"
  | unknownEscape => "found unknown escape character"
  | expectedHexNumber => "did not find expected hexdecimal number"
  | invalidCodePoint => "found invalid Unicode character escape code"
  | unexpectedColon => "found unexpected ':'"
  | tabBeforeIndentation => "found a tab character that violates indentation"
  | expectedDocumentStart => "did not find expected <document start>"
  | expectedNode => "did not find expected node content"
  | undefinedTagHandle => "found undefined tag handle"
  | expectedBlockEntry => "did not find expected '-' indicator"
  | expectedKey => "did not find expected key"
  | expectedSequenceEnd => "did not find expected ',' or ']'"
  | expectedMappingEnd => "did not find expected ',' or '\x7d'"
  | duplicateVersion => "found duplicate %YAML directive"
  | incompatibleVersion => "found incompatible YAML document"
  | duplicateTagHandle => "found duplicate %TAG directive"

/-- The wording of an activity. -/
def Activity.message : Activity → String
  | simpleKey => "while scanning a simple key"
  | nextToken => "while scanning for the next token"
  | directive => "while scanning a directive"
  | versionDirective => "while scanning a %YAML directive"
  | tagDirective => "while scanning a %TAG directive"
  | tagDirectiveHandle => "while scanning a tag directive"
  | tagDirectiveHandleEnd => "while parsing a tag directive"
  | tagDirectiveUri => "while parsing a %TAG directive"
  | tag => "while scanning a tag"
  | tagUri => "while parsing a tag"
  | anchor => "while scanning an anchor"
  | reference => "while scanning an alias"
  | blockScalar => "while scanning a block scalar"
  | quotedScalar => "while scanning a quoted scalar"
  | quotedEscape => "while parsing a quoted scalar"
  | plainScalar => "while scanning a plain scalar"
  | node => "while parsing a node"
  | blockNode => "while parsing a block node"
  | flowNode => "while parsing a flow node"
  | blockSequence => "while parsing a block collection"
  | blockMapping => "while parsing a block mapping"
  | flowSequence => "while parsing a flow sequence"
  | flowMapping => "while parsing a flow mapping"

/-- The message of a syntax error. The position of an activity is given only where it differs from
the position of the problem. -/
def SyntaxError.message : SyntaxError → String
  | forbiddenCharacter 0 => "control characters are not allowed"
  | forbiddenCharacter offset => s!"control characters are not allowed at position {offset}"
  | problem cause mark none => cause.message ++ mark.suffix
  | problem cause mark (some (activity, started)) =>
    let place :=
      if started.line = mark.line ∧ started.column = mark.column then "" else started.suffix
    cause.message ++ mark.suffix ++ ", " ++ activity.message ++ place

/-- The failure by a problem met in the course of an activity. -/
def fail {α : Type} (activity : Activity) (started : Mark) (cause : Problem) (mark : Mark) :
    Except SyntaxError α :=
  .error (.problem cause mark (some (activity, started)))

end PlaybookRepair.Yaml
