import PlaybookRepair.Number.Numeral
import PlaybookRepair.Yaml.SyntaxError
import PlaybookRepair.Yaml.Token

/-!
# Tags and names

A tag starts with an exclamation mark. It is either verbatim, between angle brackets, or a handle
with a suffix, the handle being `!`, `!!` or a name between exclamation marks. In a suffix an octet
may be written as a percent sign and two hexadecimal digits; the octets written so must form the
outline of a UTF-8 sequence. Anchors and aliases are a sign and a name.
-/

namespace PlaybookRepair.Yaml

namespace Tag

/-- The characters of a tag suffix; a verbatim tag also allows the comma and square brackets. -/
def isUriChar (verbatim : Bool) (c : Char) : Bool :=
  isNameChar c || ";/?:@&=+$.%!~*'()".toList.contains c || (verbatim && ",[]".toList.contains c)

/-- How many octets a UTF-8 sequence has that starts with the given octet. -/
def sequenceLength? (octet : Nat) : Option Nat :=
  if octet < 0x80 then some 1
  else if octet / 32 = 6 then some 2
  else if octet / 16 = 14 then some 3
  else if octet / 8 = 30 then some 4
  else none

/-- The octets of a suffix and the cursor after it, where `missing` octets of an escaped sequence
are still to come. -/
def readUri (verbatim : Bool) (activity : Activity) (start : Mark) (missing : Nat) :
    Text → Mark → Except SyntaxError (Octets × Cursor)
  | '%' :: high :: low :: rest, mark =>
    match Numeral.digitValue? 16 high, Numeral.digitValue? 16 low with
    | some high, some low => do
      let octet := 16 * high + low
      let missing ←
        if missing = 0 then
          match sequenceLength? octet with
          | some length => pure (length - 1)
          | none => fail activity start .invalidLeadingOctet mark
        else if octet / 64 = 2 then pure (missing - 1)
        else fail activity start .invalidTrailingOctet mark
      let (octets, cursor) ← readUri verbatim activity start missing rest (mark.advance 3)
      return (UInt8.ofNat octet :: octets, cursor)
    | _, _ => fail activity start .expectedEscapedOctet mark
  | c :: rest, mark =>
    if missing > 0 || c = '%' then fail activity start .expectedEscapedOctet mark
    else if isUriChar verbatim c then do
      let (octets, cursor) ← readUri verbatim activity start 0 rest (mark.advance 1)
      return (String.utf8EncodeChar c ++ octets, cursor)
    else .ok ([], ⟨c :: rest, mark⟩)
  | [], mark =>
    if missing > 0 then fail activity start .expectedEscapedOctet mark else .ok ([], ⟨[], mark⟩)

/-- A suffix after the part `head` of it that has been read already; without such a part the suffix
must have a character. -/
def readSuffix (verbatim : Bool) (activity : Activity) (start : Mark) (head : Option Text)
    (cursor : Cursor) : Except SyntaxError (Octets × Cursor) := do
  let (octets, next) ← readUri verbatim activity start 0 cursor.rest cursor.mark
  match head with
  | some head => return (Octets.ofText head ++ octets, next)
  | none =>
    if next.mark.index = cursor.mark.index then fail activity start .expectedTagUri next.mark
    else return (octets, next)

/-- The handle at a cursor: an exclamation mark, the characters of a name and, if there is one, a
closing exclamation mark. -/
def readHandle (activity : Activity) (start : Mark) (cursor : Cursor) :
    Except SyntaxError (Text × Cursor) :=
  match cursor.rest with
  | '!' :: _ =>
    let (name, next) := (cursor.advance 1).span isNameChar
    match next.rest with
    | '!' :: _ => .ok ('!' :: name ++ ['!'], next.advance 1)
    | _ => .ok ('!' :: name, next)
  | _ => fail activity start .expectedTagHandle cursor.mark

/-- Whether what looks like a handle is one that names a prefix: it ends with a second exclamation
mark. -/
def isNamedHandle (handle : Text) : Bool := handle.length > 1 && handle.getLast? = some '!'

/-- The handle and suffix of a tag that is not verbatim. What has no closing exclamation mark is the
primary handle and the start of the suffix; the tag that is nothing but an exclamation mark has an
empty handle. -/
def readShorthand (cursor : Cursor) : Except SyntaxError (Text × Octets × Cursor) := do
  let start := cursor.mark
  let (handle, next) ← readHandle .tag start cursor
  if isNamedHandle handle then
    let (suffix, next) ← readSuffix false .tagUri start none next
    return (handle, suffix, next)
  else
    let (suffix, next) ← readSuffix false .tagUri start (some (handle.drop 1)) next
    if suffix.isEmpty then return ([], Octets.ofText ['!'], next) else return (['!'], suffix, next)

/-- The tag between angle brackets. -/
def readVerbatim (cursor : Cursor) : Except SyntaxError (Text × Octets × Cursor) := do
  let (suffix, next) ← readSuffix true .tagUri cursor.mark none (cursor.advance 2)
  match next.rest with
  | '>' :: _ => return ([], suffix, next.advance 1)
  | _ => fail .tag cursor.mark .expectedTagClose next.mark

/-- The tag at a cursor. A separating character follows it or, inside a flow collection, a comma. -/
def read (inFlow : Bool) (cursor : Cursor) : Except SyntaxError (TokenKind × Cursor) := do
  let (handle, suffix, next) ←
    match cursor.rest with
    | '!' :: '<' :: _ => readVerbatim cursor
    | _ => readShorthand cursor
  if atSeparator next.rest || (inFlow && next.rest.head? = some ',') then
    return (.tag handle suffix, next)
  else fail .tag cursor.mark .expectedSeparator next.mark

end Tag

/-- The characters that may directly follow the name of an anchor or alias. -/
def isNameEnd (c : Char) : Bool := isSeparator c || "?:,]\x7d%@\x60".toList.contains c

/-- The name of an anchor or alias after its sign. -/
def readName (activity : Activity) (cursor : Cursor) : Except SyntaxError (Text × Cursor) :=
  let (name, next) := (cursor.advance 1).span isNameChar
  if name.isEmpty || !next.rest.head?.all isNameEnd then
    fail activity cursor.mark .expectedName next.mark
  else .ok (name, next)

end PlaybookRepair.Yaml
