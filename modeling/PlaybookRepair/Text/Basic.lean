import PlaybookRepair.Text.CharRanges

/-!
# Text

The library works on text as a list of characters, so that cutting, joining and measuring it are
list operations and facts about them are facts about lists. A `String` appears only where text
enters or leaves the library and in messages.

This module holds the character classes (blanks, word characters, alphanumeric characters) and the
operations that cut text: trimming blanks from its ends, cutting it before the first occurrence of
another text, splitting it into lines or at a mark, and the reverse, joining.
-/

namespace PlaybookRepair

/-- A text is the list of its characters. -/
abbrev Text := List Char

namespace Text

/-- Whether a code point lies in one of the listed ranges. -/
def inRanges (ranges : List (Nat × Nat)) (code : Nat) : Bool :=
  ranges.any fun range => range.1 ≤ code && code ≤ range.2

/-- A blank is a character of the property White_Space: besides the space and the ASCII controls
from tab to carriage return these are the next-line control, the no-break space and the typographic
spaces and separators. -/
def isBlank (c : Char) : Bool :=
  let code := c.toNat
  code == 0x20 || (9 ≤ code && code ≤ 13) || code == 0x85 || code == 0xA0 || code == 0x1680 ||
    (0x2000 ≤ code && code ≤ 0x200A) || code == 0x2028 || code == 0x2029 || code == 0x202F ||
    code == 0x205F || code == 0x3000

/-- Characters of words: letters, marks, decimal digits, connector punctuation and join controls. -/
def isWordChar (c : Char) : Bool :=
  if c.toNat < 128 then c.isAlphanum || c == '_' else inRanges wordRanges c.toNat

/-- Alphabetic and numeric characters. -/
def isAlphanumeric (c : Char) : Bool :=
  if c.toNat < 128 then c.isAlphanum else inRanges alphanumericRanges c.toNat

/-- The text without the blanks it starts with. -/
def trimStart (text : Text) : Text := text.dropWhile isBlank

/-- The text without the blanks it ends with. -/
def trimEnd (text : Text) : Text := (text.reverse.dropWhile isBlank).reverse

/-- The text without the blanks at either end. -/
def trim (text : Text) : Text := trimEnd (trimStart text)

/-- Whether `piece` occurs somewhere in the text. -/
def holds (piece : Text) : Text → Bool
  | [] => piece.isEmpty
  | c :: rest => piece.isPrefixOf (c :: rest) || holds piece rest

/-- The part of the text before the first occurrence of `piece`, or all of it. -/
def before (piece : Text) : Text → Text
  | [] => []
  | c :: rest => if piece.isPrefixOf (c :: rest) then [] else c :: before piece rest

/-- Whether the text starts with `piece`. -/
def startsWith (text piece : Text) : Bool := piece.isPrefixOf text

/-- Whether the text ends with `piece`. -/
def endsWith (text piece : Text) : Bool := piece.isSuffixOf text

/-- What follows `piece` in a text that starts with it. -/
def after? (piece text : Text) : Option Text :=
  if piece.isPrefixOf text then some (text.drop piece.length) else none

/-- The lines of a text. A line ends at a line feed, which takes one carriage return before it
along; an unterminated last line counts, an empty one after the last line feed does not. -/
def lines : Text → List Text
  | [] => []
  | '\n' :: rest => [] :: lines rest
  | '\r' :: '\n' :: rest => [] :: lines rest
  | c :: rest =>
    match lines rest with
    | [] => [[c]]
    | line :: more => (c :: line) :: more

/-- The lines joined by line feeds, each line being terminated. -/
def unlines (lines : List Text) : Text := lines.flatMap (· ++ ['\n'])

/-- The text between the last occurrence of `mark` and the end, or all of it. -/
def afterLast (mark : Char) (text : Text) : Text :=
  (text.reverse.takeWhile (· != mark)).reverse

/-- The pieces of a text between the occurrences of a mark; there is one more of them than marks. -/
def pieces (mark : Char) : Text → List Text
  | [] => [[]]
  | c :: rest =>
    if c = mark then [] :: pieces mark rest
    else
      match pieces mark rest with
      | [] => [[c]]
      | piece :: more => (c :: piece) :: more

/-- The texts joined, with a separator between each two. -/
def join (separator : Text) : List Text → Text
  | [] => []
  | [text] => text
  | text :: rest => text ++ separator ++ join separator rest

/-- The decimal numeral of a natural number. -/
def ofNat (n : Nat) : Text := Nat.toDigits 10 n

/-- ASCII capital letters become small ones. -/
def lowerAscii (text : Text) : Text := text.map Char.toLower

end Text

end PlaybookRepair
