import PlaybookRepair.Yaml.Reading
import PlaybookRepair.Yaml.Token

/-!
# The events of a YAML stream

The events of a stream tell its documents as a traversal of their nodes: a scalar or alias is one
event, a collection is its start, the events of its parts and its end. Events are found from tokens
with a stack of expectations. Each step takes the innermost expectation, looks at the next token,
and either reports an event or replaces the expectation by others; where the tokens leave a node
out, an empty scalar stands for it.
-/

namespace PlaybookRepair.Yaml

/-- What happens at one place of a stream. -/
inductive EventKind
  | documentStart
  | documentEnd
  | reference (name : Text)
  | scalar (anchor : Option Text) (tag : Option Octets) (value : Text) (style : ScalarStyle)
  | sequenceStart (anchor : Option Text) (tag : Option Octets)
  | sequenceEnd
  | mappingStart (anchor : Option Text) (tag : Option Octets)
  | mappingEnd
deriving Repr, DecidableEq

/-- An event and the position at which it starts. -/
structure Event where
  kind : EventKind
  mark : Mark
deriving Repr, DecidableEq

/-- The scalar that stands for a node left out at a position. -/
def Event.empty (mark : Mark) : Event := ⟨.scalar none none [] .plain, mark⟩

/-- What is expected next. A collection is remembered by the mark at which it started. -/
inductive Expectation
  /-- The start of a document; the first one needs no sign. -/
  | document (isFirst : Bool)
  /-- The root of a document after its starting sign. -/
  | root
  | documentEnd
  /-- A node; in block context also a block collection, and as a key or value of a block mapping
  also a sequence whose items are not indented. -/
  | node (inBlock allowUnindented : Bool)
  | blockItem (start : Mark)
  | unindentedItem
  | blockKey (start : Mark)
  | blockValue (start : Mark)
  | flowItem (isFirst : Bool) (start : Mark)
  /-- The key, the value and the end of a mapping that is a single pair in a flow sequence. -/
  | pairKey
  | pairValue
  | pairEnd
  | flowKey (isFirst : Bool) (start : Mark)
  | flowValue (start : Mark)
  /-- The value of a key in a flow mapping after which no colon stands. -/
  | flowMissingValue (start : Mark)
deriving Repr, DecidableEq

/-- The prefixes of the tag handles of a document. -/
abbrev TagHandles := List (Text × Octets)

/-- The handles that are known without a directive. -/
def defaultHandles : TagHandles :=
  [("!".toList, Octets.ofText "!".toList),
    ("!!".toList, Octets.ofText "tag:yaml.org,2002:".toList)]

/-- The state between two steps. -/
structure EventReader where
  expected : List Expectation
  tokens : Reading Token
  handles : TagHandles := []

/-- The outcome of a step: the event it reports, if any, and the state after it. -/
abbrev EventStep := Except SyntaxError (Option Event × EventReader)

namespace EventReader

/-- The step that reports an event. -/
def report (reader : EventReader) (kind : EventKind) (mark : Mark) : EventStep :=
  .ok (some ⟨kind, mark⟩, reader)

/-- The step that reports an empty scalar. -/
def reportEmpty (reader : EventReader) (mark : Mark) : EventStep :=
  .ok (some (.empty mark), reader)

/-- The step that only changes what is expected. -/
def proceed (reader : EventReader) : EventStep := .ok (none, reader)

/-- The reader with further expectations, the first one being the innermost. -/
def expect (reader : EventReader) (expectations : List Expectation) : EventReader :=
  { reader with expected := expectations ++ reader.expected }

/-- The reader after a token. -/
def after (reader : EventReader) (tokens : Reading Token) : EventReader := { reader with tokens }

/-! ## Documents -/

/-- The handles with one more, which must not be among them. -/
def addHandle (handles : TagHandles) (handle : Text) (replacement : Octets) (mark : Mark) :
    Except SyntaxError TagHandles :=
  if (handles.lookup handle).isSome then .error (.problem .duplicateTagHandle mark none)
  else .ok (handles ++ [(handle, replacement)])

/-- The handles that the directives before a document define, and the tokens after them. -/
def readDirectives (versioned : Bool) (handles : TagHandles) :
    Reading Token → Except SyntaxError (TagHandles × Reading Token)
  | .item ⟨.versionDirective major minor, mark⟩ rest =>
    if versioned then .error (.problem .duplicateVersion mark none)
    else if major ≠ 1 ∨ (minor ≠ 1 ∧ minor ≠ 2) then
      .error (.problem .incompatibleVersion mark none)
    else readDirectives true handles rest
  | .item ⟨.tagDirective handle replacement, mark⟩ rest => do
    readDirectives versioned (← addHandle handles handle replacement mark) rest
  | tokens => .ok (handles, tokens)

/-- The default handles that have not been redefined, after those that have been defined. -/
def withDefaults (handles : TagHandles) : TagHandles :=
  handles ++ defaultHandles.filter fun handle => (handles.lookup handle.1).isNone

/-- The tokens after signs that end documents. -/
def skipDocumentEnds : Reading Token → Reading Token
  | .item ⟨.documentEnd, _⟩ rest => skipDocumentEnds rest
  | tokens => tokens

/-- Whether a token starts a document that has a starting sign, or ends the stream. -/
def startsExplicitly : TokenKind → Bool
  | .versionDirective .. | .tagDirective .. | .documentStart | .streamEnd => true
  | _ => false

/-- The start of a document, or the end of the stream. -/
def stepDocument (reader : EventReader) (isFirst : Bool) : EventStep :=
  let tokens := if isFirst then reader.tokens else skipDocumentEnds reader.tokens
  match tokens with
  | .ended => (reader.after .ended).proceed
  | .broken error => .error error
  | .item ⟨.streamEnd, _⟩ _ => (reader.after .ended).proceed
  | .item ⟨kind, mark⟩ _ =>
    if isFirst && !startsExplicitly kind then
      ({ reader with handles := defaultHandles }.expect
        [.node true false, .documentEnd]).report .documentStart mark
    else do
      let (handles, tokens) ← readDirectives false [] tokens
      match tokens with
      | .item ⟨.documentStart, _⟩ rest =>
        ({ reader with tokens := rest, handles := withDefaults handles }.expect
          [.root, .documentEnd]).report .documentStart mark
      | .item token _ => .error (.problem .expectedDocumentStart token.start none)
      | .broken error => .error error
      | .ended => .ok (none, reader.after .ended)

/-- Whether the root of a document is left out before this token. -/
def endsRoot : TokenKind → Bool
  | .versionDirective .. | .tagDirective .. | .documentStart | .documentEnd | .streamEnd => true
  | _ => false

/-- The end of a document. -/
def stepDocumentEnd (reader : EventReader) (token : Token) (rest : Reading Token) : EventStep :=
  let reader := { reader with handles := [] }.expect [.document false]
  match token.kind with
  | .documentEnd => (reader.after rest).report .documentEnd token.start
  | _ => reader.report .documentEnd token.start

/-! ## Nodes -/

/-- The properties of a node: an anchor and a tag, in either order. -/
structure Properties where
  anchor : Option Text := none
  tag : Option (Text × Octets × Mark) := none
  /-- The first of the properties. -/
  start : Option Mark := none

/-- The properties before a node, and the tokens after them. -/
def readProperties : Reading Token → Properties × Reading Token
  | .item ⟨.anchor name, start⟩ (.item ⟨.tag handle suffix, mark⟩ rest) =>
    ({ anchor := name, tag := some (handle, suffix, mark), start := some start }, rest)
  | .item ⟨.anchor name, start⟩ rest => ({ anchor := name, start := some start }, rest)
  | .item ⟨.tag handle suffix, mark⟩ (.item ⟨.anchor name, _⟩ rest) =>
    ({ anchor := name, tag := some (handle, suffix, mark), start := some mark }, rest)
  | .item ⟨.tag handle suffix, mark⟩ rest =>
    ({ tag := some (handle, suffix, mark), start := some mark }, rest)
  | tokens => ({}, tokens)

/-- The tag that a handle and a suffix mean; with an empty handle the suffix is the tag. -/
def resolveTag (handles : TagHandles) (start : Mark) (tag : Text × Octets × Mark) :
    Except SyntaxError Octets :=
  let (handle, suffix, mark) := tag
  if handle.isEmpty then .ok suffix
  else
    match handles.lookup handle with
    | some first => .ok (first ++ suffix)
    | none => fail .node start .undefinedTagHandle mark

/-- A node without properties before its first token. -/
def stepContent (reader : EventReader) (inBlock allowUnindented : Bool) (anchor : Option Text)
    (tag : Option Octets) (start : Mark) (token : Token) (rest : Reading Token) : EventStep :=
  let sequence := fun item =>
    ((reader.after rest).expect [item]).report (.sequenceStart anchor tag) start
  let mapping := fun key =>
    ((reader.after rest).expect [key]).report (.mappingStart anchor tag) start
  let isTagged := anchor.isSome || tag.isSome
  let missing : EventStep :=
    if isTagged then reader.report (.scalar anchor tag [] .plain) start
    else fail (if inBlock then .blockNode else .flowNode) start .expectedNode token.start
  match token.kind with
  | .blockEntry =>
    if allowUnindented then
      (reader.expect [.unindentedItem]).report (.sequenceStart anchor tag) start
    else missing
  | .scalar value style =>
    (reader.after rest).report (.scalar anchor tag value style) start
  | .flowSequenceStart => sequence (.flowItem true token.start)
  | .flowMappingStart => mapping (.flowKey true token.start)
  | .blockSequenceStart => if inBlock then sequence (.blockItem token.start) else missing
  | .blockMappingStart => if inBlock then mapping (.blockKey token.start) else missing
  | _ => missing

/-- A node. -/
def stepNode (reader : EventReader) (inBlock allowUnindented : Bool) : EventStep :=
  match reader.tokens with
  | .item ⟨.reference name, mark⟩ rest => (reader.after rest).report (.reference name) mark
  | tokens => do
    let (properties, tokens) := readProperties tokens
    match tokens with
    | .broken error => .error error
    | .ended => (reader.after .ended).proceed
    | .item token rest =>
      let start := properties.start.getD token.start
      let tag ← properties.tag.mapM (resolveTag reader.handles start)
      stepContent (reader.after tokens) inBlock allowUnindented properties.anchor tag start
        token rest

/-! ## Collections -/

/-- The step after a sign that a node may follow: the node, or an empty scalar if a token follows
that cannot start one. -/
def stepAfterSign (reader : EventReader) (node : Expectation) (next : List Expectation)
    (isMissing : TokenKind → Bool) (mark : Token → Mark) (tokens : Reading Token) : EventStep :=
  match tokens with
  | .broken error => .error error
  | .ended => (reader.after .ended).proceed
  | .item token _ =>
    let reader := reader.after tokens
    if isMissing token.kind then (reader.expect next).reportEmpty (mark token)
    else (reader.expect (node :: next)).proceed

/-- An item of a block sequence, or its end. -/
def stepBlockItem (reader : EventReader) (start : Mark) (token : Token) (rest : Reading Token) :
    EventStep :=
  match token.kind with
  | .blockEntry =>
    reader.stepAfterSign (.node true false) [.blockItem start]
      (fun kind => kind = .blockEntry || kind = .blockEnd) (fun _ => token.after) rest
  | .blockEnd => (reader.after rest).report .sequenceEnd token.start
  | _ => fail .blockSequence start .expectedBlockEntry token.start

/-- An item of a sequence that is not indented, or its end. -/
def stepUnindentedItem (reader : EventReader) (token : Token) (rest : Reading Token) :
    EventStep :=
  match token.kind with
  | .blockEntry =>
    reader.stepAfterSign (.node true false) [.unindentedItem]
      (fun kind => kind = .blockEntry || kind = .key || kind = .value || kind = .blockEnd)
      (fun _ => token.after) rest
  | _ => reader.report .sequenceEnd token.start

/-- Whether a key or value of a block mapping is left out before this token. -/
def endsBlockNode (kind : TokenKind) : Bool :=
  kind = .key || kind = .value || kind = .blockEnd

/-- A key of a block mapping, or its end. -/
def stepBlockKey (reader : EventReader) (start : Mark) (token : Token) (rest : Reading Token) :
    EventStep :=
  match token.kind with
  | .key =>
    reader.stepAfterSign (.node true true) [.blockValue start] endsBlockNode
      (fun _ => token.after) rest
  | .blockEnd => (reader.after rest).report .mappingEnd token.start
  | _ => fail .blockMapping start .expectedKey token.start

/-- A value of a block mapping. -/
def stepBlockValue (reader : EventReader) (start : Mark) (token : Token) (rest : Reading Token) :
    EventStep :=
  match token.kind with
  | .value =>
    reader.stepAfterSign (.node true true) [.blockKey start] endsBlockNode
      (fun _ => token.after) rest
  | _ => (reader.expect [.blockKey start]).reportEmpty token.start

/-- The tokens at the next part of a flow collection, behind the comma that has to separate it from
the part before. -/
def skipComma (isFirst : Bool) (activity : Activity) (start : Mark) (cause : Problem)
    (token : Token) (tokens rest : Reading Token) : Except SyntaxError (Reading Token) :=
  if isFirst then .ok tokens
  else if token.kind = .flowEntry then .ok rest
  else fail activity start cause token.start

/-- An item of a flow sequence, or its end. -/
def stepFlowItem (reader : EventReader) (isFirst : Bool) (start : Mark) (token : Token)
    (rest : Reading Token) : EventStep :=
  if token.kind = .flowSequenceEnd then (reader.after rest).report .sequenceEnd token.start
  else do
    let tokens ← skipComma isFirst .flowSequence start .expectedSequenceEnd token
      reader.tokens rest
    match tokens with
    | .broken error => .error error
    | .ended => (reader.after .ended).proceed
    | .item ⟨.key, mark⟩ rest =>
      ((reader.after rest).expect [.pairKey, .flowItem false start]).report
        (.mappingStart none none) mark
    | .item ⟨.flowSequenceEnd, mark⟩ rest => (reader.after rest).report .sequenceEnd mark
    | tokens =>
      ((reader.after tokens).expect [.node false false, .flowItem false start]).proceed

/-- The key of a pair in a flow sequence. A sign that stands where the key should is taken for the
missing key. -/
def stepPairKey (reader : EventReader) (token : Token) (rest : Reading Token) : EventStep :=
  if token.kind = .value || token.kind = .flowEntry || token.kind = .flowSequenceEnd then
    ((reader.after rest).expect [.pairValue]).reportEmpty token.after
  else (reader.expect [.node false false, .pairValue]).proceed

/-- The value of a pair in a flow sequence. -/
def stepPairValue (reader : EventReader) (token : Token) (rest : Reading Token) : EventStep :=
  if token.kind = .value then
    reader.stepAfterSign (.node false false) [.pairEnd]
      (fun kind => kind = .flowEntry || kind = .flowSequenceEnd) Token.start rest
  else (reader.expect [.pairEnd]).reportEmpty token.start

/-- A key of a flow mapping, or its end. -/
def stepFlowKey (reader : EventReader) (isFirst : Bool) (start : Mark) (token : Token)
    (rest : Reading Token) : EventStep :=
  if token.kind = .flowMappingEnd then (reader.after rest).report .mappingEnd token.start
  else do
    let tokens ← skipComma isFirst .flowMapping start .expectedMappingEnd token
      reader.tokens rest
    match tokens with
    | .broken error => .error error
    | .ended => (reader.after .ended).proceed
    | .item ⟨.key, _⟩ rest =>
      reader.stepAfterSign (.node false false) [.flowValue start]
        (fun kind => kind = .value || kind = .flowEntry || kind = .flowMappingEnd) Token.start rest
    | .item ⟨.flowMappingEnd, mark⟩ rest => (reader.after rest).report .mappingEnd mark
    | tokens =>
      ((reader.after tokens).expect [.node false false, .flowMissingValue start]).proceed

/-- A value of a flow mapping. -/
def stepFlowValue (reader : EventReader) (start : Mark) (token : Token) (rest : Reading Token) :
    EventStep :=
  if token.kind = .value then
    reader.stepAfterSign (.node false false) [.flowKey false start]
      (fun kind => kind = .flowEntry || kind = .flowMappingEnd) Token.start rest
  else (reader.expect [.flowKey false start]).reportEmpty token.start

/-! ## Streams -/

/-- The step for an expectation that looks at the next token only. -/
def stepToken (reader : EventReader) (expectation : Expectation) (token : Token)
    (rest : Reading Token) : EventStep :=
  match expectation with
  | .document isFirst => reader.stepDocument isFirst
  | .root =>
    if endsRoot token.kind then reader.reportEmpty token.start else reader.stepNode true false
  | .documentEnd => reader.stepDocumentEnd token rest
  | .node inBlock allowUnindented => reader.stepNode inBlock allowUnindented
  | .blockItem start => reader.stepBlockItem start token rest
  | .unindentedItem => reader.stepUnindentedItem token rest
  | .blockKey start => reader.stepBlockKey start token rest
  | .blockValue start => reader.stepBlockValue start token rest
  | .flowItem isFirst start => reader.stepFlowItem isFirst start token rest
  | .pairKey => reader.stepPairKey token rest
  | .pairValue => reader.stepPairValue token rest
  | .pairEnd => reader.report .mappingEnd token.start
  | .flowKey isFirst start => reader.stepFlowKey isFirst start token rest
  | .flowValue start => reader.stepFlowValue start token rest
  | .flowMissingValue start => (reader.expect [.flowKey false start]).reportEmpty token.start

/-- The events from a reader on, in at most `fuel` steps. -/
def run : Nat → EventReader → Reading Event
  | 0, _ => .ended
  | fuel + 1, reader =>
    match reader.expected, reader.tokens with
    | [], _ | _, .ended => .ended
    | _, .broken error => .broken error
    | expectation :: expected, .item token rest =>
      match stepToken { reader with expected } expectation token rest with
      | .error error => .broken error
      | .ok (none, reader) => run fuel reader
      | .ok (some event, reader) => .item event (run fuel reader)

end EventReader

/-- The events of a stream of tokens. Between two steps that read a token there are fewer than eight
that do not. -/
def events (tokens : Reading Token) : Reading Event :=
  EventReader.run (8 * (tokens.length + 2)) { expected := [.document true], tokens }

end PlaybookRepair.Yaml
