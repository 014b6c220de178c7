import PlaybookRepair.Text.Quoted
import PlaybookRepair.Yaml.Event
import PlaybookRepair.Yaml.Resolution
import PlaybookRepair.Yaml.TokenStream

/-!
# YAML documents

A document is the list of the events of its nodes, in which an alias refers to the event of the node
with its anchor. If the stream breaks off within a document, the document keeps its events up to
there together with the error.

The value of a document is built from its events. An alias is read by reading the events of its node
again, so nothing keeps an alias from referring to a node around it: the nesting of collections is
limited, and so is the number of aliases that are read. No two keys of a mapping may be the same. An
error in the events that are there is met before the error that broke off the stream.
-/

namespace PlaybookRepair.Yaml

/-- An event of a document. -/
inductive NodeEvent
  /-- A reference to the event at the given place of the document. -/
  | reference (target : Nat)
  | scalar (tag : Option Octets) (value : Text) (style : ScalarStyle)
  | sequenceStart (tag : Option Octets)
  | sequenceEnd
  | mappingStart (tag : Option Octets)
  | mappingEnd
deriving Repr, DecidableEq

/-- Why a document ends early. -/
inductive DocumentBreak
  | malformed (error : SyntaxError)
  /-- An alias without an anchor of its name before it. -/
  | unknownAnchor (mark : Mark)
deriving Repr, DecidableEq

/-- The events of a document. -/
structure Document where
  events : List (NodeEvent × Mark) := []
  break? : Option DocumentBreak := none

/-! ## Splitting a stream into documents -/

/-- The part of a document that has been read: its events, the last one first, and for each anchor
the place of its node, the last anchor first. -/
structure OpenDocument where
  events : List (NodeEvent × Mark) := []
  anchors : List (Text × Nat) := []

namespace OpenDocument

/-- The document with one more event. -/
def push (document : OpenDocument) (anchor : Option Text) (event : NodeEvent) (mark : Mark) :
    OpenDocument where
  events := (event, mark) :: document.events
  anchors :=
    match anchor with
    | some name => (name, document.events.length) :: document.anchors
    | none => document.anchors

/-- The document as far as it has been read. -/
def close (document : OpenDocument) (break? : Option DocumentBreak) : Document where
  events := document.events.reverse
  break? := break?

end OpenDocument

/-- The documents of a stream from an event on, the first of them being open. A document that ends
early is the last. -/
def documentsFrom (document : OpenDocument) : Reading Event → List Document
  | .ended => []
  | .broken error => [document.close (some (.malformed error))]
  | .item ⟨kind, mark⟩ rest =>
    match kind with
    | .documentStart => documentsFrom {} rest
    | .documentEnd => document.close none :: documentsFrom {} rest
    | .reference name =>
      match document.anchors.lookup name with
      | some target => documentsFrom (document.push none (.reference target) mark) rest
      | none => [document.close (some (.unknownAnchor mark))]
    | .scalar anchor tag value style =>
      documentsFrom (document.push anchor (.scalar tag value style) mark) rest
    | .sequenceStart anchor tag =>
      documentsFrom (document.push anchor (.sequenceStart tag) mark) rest
    | .sequenceEnd => documentsFrom (document.push none .sequenceEnd mark) rest
    | .mappingStart anchor tag =>
      documentsFrom (document.push anchor (.mappingStart tag) mark) rest
    | .mappingEnd => documentsFrom (document.push none .mappingEnd mark) rest

/-- The document of a stream in which nothing is written: its root is left out. -/
def Document.blank : Document := { events := [(.scalar none [] .plain, .start)] }

/-- The documents of a text, of which there is always at least one. -/
def documents (text : Text) : List Document :=
  match documentsFrom {} (events (tokens text)) with
  | [] => [.blank]
  | found => found

/-! ## Errors of documents -/

/-- A place in a document, as the keys and positions that lead to it. -/
inductive Path
  | root
  | item (parent : Path) (index : Nat)
  | entry (parent : Path) (key : Text)
  /-- The value of a key that is not a scalar. -/
  | unnamed (parent : Path)
deriving Repr, DecidableEq

namespace Path

/-- A path as the start of a longer one. -/
def lead (text : Text) : Path → Text
  | root => []
  | _ => text ++ ['.']

/-- The text of a path. -/
def text : Path → Text
  | root => ['.']
  | item parent index => parent.text ++ '[' :: Text.ofNat index ++ [']']
  | entry parent key => lead parent.text parent ++ key
  | unnamed parent => lead parent.text parent ++ ['?']

end Path

/-- What is wrong with the value at a place. -/
inductive ValueError
  | scalar (error : ScalarError)
  /-- A key that the mapping has already. -/
  | duplicateKey (key : Value)
deriving Repr

/-- Why a document has no value. -/
inductive DocumentError
  | broken (cause : DocumentBreak)
  /-- A collection at the mark is nested too deeply. -/
  | tooDeep (mark : Mark)
  | tooManyAliases
  | invalid (error : ValueError) (path : Path) (mark : Mark)
  /-- There is not exactly one document where exactly one is wanted. -/
  | notSingle (count : Nat)
deriving Repr

/-- The wording of what is wrong with a value. -/
def ValueError.message : ValueError → String
  | scalar (.wideInteger value) =>
    let width := if value < 0 then "i128" else "u128"
    let shown := String.ofList (Number.whole value).text
    s!"invalid type: integer \x60{shown}\x60 as {width}, expected any YAML value"
  | scalar (.mismatch expected text) =>
    let shown := String.ofList (Text.quoted text)
    s!"invalid value: string {shown}, expected {expected.description}"
  | duplicateKey key =>
    match key with
    | .null => "duplicate entry with null key"
    | .bool true => "duplicate entry with key \x60true\x60"
    | .bool false => "duplicate entry with key \x60false\x60"
    | .number value => "duplicate entry with key " ++ String.ofList value.text
    | .string value => "duplicate entry with key " ++ String.ofList (Text.quoted value)
    | _ => "duplicate entry in YAML map"

/-- The message of an error. -/
def DocumentError.message : DocumentError → String
  | broken (.malformed error) => error.message
  | broken (.unknownAnchor mark) => "unknown anchor" ++ mark.suffix
  | tooDeep mark => "recursion limit exceeded" ++ mark.suffix
  | tooManyAliases => "repetition limit exceeded"
  | invalid error path mark =>
    let place := if path = .root then "" else String.ofList path.text ++ ": "
    place ++ error.message ++ mark.suffix
  | notSingle 0 => "EOF while parsing a value"
  | notSingle _ => "deserializing from YAML containing more than one document is not supported"

/-! ## Values of documents -/

/-- How deeply collections may be nested. -/
def maxDepth : Nat := 128

/-- How many aliases may be read for each event of a document. -/
def aliasesPerEvent : Nat := 100

/-- The name of the local type that a tag gives to a value. -/
def localType? (tag : Option Octets) : Option Octets :=
  match tag with
  | some (0x21 :: name) =>
    if (ByteArray.mk name.toArray).validateUTF8 then
      some (if name.isEmpty then [0x21] else name)
    else none
  | _ => none

/-- A place in the reading of a document's events: those still to come, and how many aliases have
been read. -/
structure ValueReader where
  events : List (NodeEvent × Mark)
  aliases : Nat := 0

namespace Document

/-- The end of the events that are there. -/
def outOfEvents {α : Type} (document : Document) : Except DocumentError α :=
  match document.break? with
  | some cause => .error (.broken cause)
  | none => .error (.notSingle 0)

/-- The path of the value whose key starts with the given event. -/
def entryPath (path : Path) : NodeEvent → Path
  | .scalar _ key _ => .entry path key
  | _ => .unnamed path

mutual

/-- The value of the node at the reader, inside `depth` collections, and the reader after it. Under
a local type its own tag no longer counts. -/
def readNode (document : Document) (fuel : Nat) (isTyped : Bool) (path : Path) (depth : Nat)
    (reader : ValueReader) : Except DocumentError (Value × ValueReader) :=
  match fuel with
  | 0 => .error .tooManyAliases
  | fuel + 1 =>
    let typed := fun (tag : Option Octets)
        (read : Bool → Except DocumentError (Value × ValueReader)) =>
      match if isTyped then none else localType? tag with
      | none => read isTyped
      | some name => (read true).map fun (value, reader) => (.tagged name value, reader)
    match reader.events with
    | [] => document.outOfEvents
    | (.reference target, _) :: rest =>
      let aliases := reader.aliases + 1
      if aliases > document.events.length * aliasesPerEvent then .error .tooManyAliases
      else do
        let (value, after) ← readNode document fuel false path depth
          ⟨document.events.drop target, aliases⟩
        return (value, ⟨rest, after.aliases⟩)
    | (.scalar tag text style, mark) :: rest =>
      typed tag fun isTyped =>
        match Scalar.value (if isTyped then none else tag) text style with
        | .ok value => .ok (value, { reader with events := rest })
        | .error error => .error (.invalid (.scalar error) path mark)
    | (.sequenceStart tag, mark) :: rest =>
      typed tag fun _ =>
        if depth ≥ maxDepth then .error (.tooDeep mark)
        else do
          let (items, reader) ←
            readItems document fuel path 0 (depth + 1) { reader with events := rest }
          return (.sequence items, reader)
    | (.mappingStart tag, mark) :: rest =>
      typed tag fun isTyped =>
        if depth ≥ maxDepth then .error (.tooDeep mark)
        else do
          let (entries, reader) ←
            readEntries document fuel isTyped path mark [] (depth + 1)
              { reader with events := rest }
          return (.mapping entries, reader)
    | (.sequenceEnd, _) :: _ | (.mappingEnd, _) :: _ => document.outOfEvents

/-- The items of a sequence from the one with the given index on. -/
def readItems (document : Document) (fuel : Nat) (path : Path) (index depth : Nat)
    (reader : ValueReader) : Except DocumentError (List Value × ValueReader) :=
  match fuel with
  | 0 => .error .tooManyAliases
  | fuel + 1 =>
    match reader.events with
    | (.sequenceEnd, _) :: rest => .ok ([], { reader with events := rest })
    | _ => do
      let (value, reader) ← readNode document fuel false (.item path index) depth reader
      let (values, reader) ← readItems document fuel path (index + 1) depth reader
      return (value :: values, reader)

/-- The entries of the mapping that starts at `mark`, after those that have been read. -/
def readEntries (document : Document) (fuel : Nat) (isTyped : Bool) (path : Path) (mark : Mark)
    (known : List (Value × Value)) (depth : Nat) (reader : ValueReader) :
    Except DocumentError (List (Value × Value) × ValueReader) :=
  match fuel with
  | 0 => .error .tooManyAliases
  | fuel + 1 =>
    match reader.events with
    | [] => document.outOfEvents
    | (.mappingEnd, _) :: rest => .ok (known.reverse, { reader with events := rest })
    | (first, _) :: _ => do
      let (key, reader) ← readNode document fuel isTyped path depth reader
      match known.find? fun entry => entry.1.same key with
      | some (existing, _) => .error (.invalid (.duplicateKey existing) path mark)
      | none =>
        let (value, reader) ←
          readNode document fuel false (entryPath path first) depth reader
        readEntries document fuel isTyped path mark ((key, value) :: known) depth reader

end

/-- The value of a document. Within one level of nesting every step of the reader passes an event,
which bounds the length of a chain of steps. -/
def value (document : Document) : Except DocumentError Value := do
  let fuel := (maxDepth + 2) * (document.events.length + 8)
  let (value, _) ← document.readNode fuel false .root 0 ⟨document.events, 0⟩
  match document.break? with
  | some cause => .error (.broken cause)
  | none => return value

end Document

/-- The value of the one document of a text. -/
def readSingle (text : Text) : Except DocumentError Value :=
  match documents text with
  | [] => .error (.notSingle 0)
  | document :: more => do
    let value ← document.value
    if more.isEmpty then return value else .error (.notSingle (more.length + 1))

end PlaybookRepair.Yaml
