import PlaybookRepair.Text.Quoted

/-!
# Glob patterns

A glob pattern describes paths. A question mark stands for any character, a star for any text, a
set of characters between brackets for one of them or, after an exclamation mark, for any other one.
Two stars that fill a component of the pattern stand for any number of whole directories, or for all
of the rest. Slashes are ordinary characters for a question mark, a star and a set.
-/

namespace PlaybookRepair

/-- A range of characters; a single character is a range of one. -/
structure CharRange where
  first : Char
  last : Char
deriving Repr, DecidableEq

/-- Whether a character lies in a range. -/
def CharRange.has (range : CharRange) (c : Char) : Bool := range.first ≤ c && c ≤ range.last

namespace GlobPattern

/-- A part of a pattern. -/
inductive Part
  | literal (c : Char)
  | anyChar
  | anyOf (ranges : List CharRange)
  | noneOf (ranges : List CharRange)
  | anyText
  | anyDirectories
deriving Repr, DecidableEq

/-- Why a text is no pattern. -/
inductive Fault
  /-- Three or more stars in a row. -/
  | tooManyStars
  /-- Two stars that do not fill a component. -/
  | starsBesideText
  /-- A set of characters that is empty or not closed. -/
  | badSet
deriving Repr, DecidableEq

/-- The wording of a fault. -/
def Fault.message : Fault → String
  | tooManyStars => "wildcards are either regular \x60*\x60 or recursive \x60**\x60"
  | starsBesideText => "recursive wildcards must form a single path component"
  | badSet => "invalid range pattern"

/-- A fault and its position, in characters. -/
structure Error where
  position : Nat
  fault : Fault
deriving Repr, DecidableEq

/-- The wording of an error. -/
def Error.message (error : Error) : String :=
  s!"Pattern syntax error near position {error.position}: {error.fault.message}"

/-- The ranges that are written between brackets. -/
def ranges : Text → List CharRange
  | first :: '-' :: last :: rest => ⟨first, last⟩ :: ranges rest
  | c :: rest => ⟨c, c⟩ :: ranges rest
  | [] => []

/-- What stands between an opening and the next closing bracket, and what follows. The first
character belongs to the set even if it is a bracket. -/
def splitSet? : Text → Option (Text × Text)
  | [] => none
  | first :: rest =>
    if rest.contains ']' then
      let more := rest.takeWhile (· ≠ ']')
      some (first :: more, rest.drop (more.length + 1))
    else none

/-- The set that follows an opening bracket, and what follows the set. -/
def set? : Text → Option (Part × Text)
  | '!' :: rest => (splitSet? rest).map fun (inside, rest) => (.noneOf (ranges inside), rest)
  | rest => (splitSet? rest).map fun (inside, rest) => (.anyOf (ranges inside), rest)

/-- The parts after the given ones, once two stars have been read. Repeated stars for directories say
nothing new unless they start the pattern. -/
def addDirectories (parts : List Part) : List Part :=
  if parts.length > 1 && parts.getLast? = some .anyDirectories then parts
  else parts ++ [.anyDirectories]

/-- Reads the rest of a pattern, given the parts before it, the character before it and its
position; at most `fuel` parts are read. -/
def readFrom : Nat → List Part → Option Char → Nat → Text → Except Error (List Part)
  | 0, parts, _, _, _ => .ok parts
  | _, parts, _, _, [] => .ok parts
  | fuel + 1, parts, before, position, '*' :: rest =>
    let stars := 1 + (rest.takeWhile (· = '*')).length
    let rest := rest.dropWhile (· = '*')
    if stars > 2 then .error ⟨position + 2, .tooManyStars⟩
    else if stars = 1 then readFrom fuel (parts ++ [.anyText]) (some '*') (position + 1) rest
    else if position ≠ 0 && before ≠ some '/' then .error ⟨position - 1, .starsBesideText⟩
    else
      match rest with
      | [] => .ok (addDirectories parts)
      | '/' :: rest => readFrom fuel (addDirectories parts) (some '/') (position + 3) rest
      | _ => .error ⟨position + 2, .starsBesideText⟩
  | fuel + 1, parts, _, position, '?' :: rest =>
    readFrom fuel (parts ++ [.anyChar]) (some '?') (position + 1) rest
  | fuel + 1, parts, _, position, '[' :: rest =>
    match set? rest with
    | some (part, after) =>
      let length := rest.length - after.length + 1
      readFrom fuel (parts ++ [part]) (some ']') (position + length) after
    | none => .error ⟨position, .badSet⟩
  | fuel + 1, parts, _, position, c :: rest =>
    readFrom fuel (parts ++ [.literal c]) (some c) (position + 1) rest

/-- A text and everything that it ends with. -/
def suffixes : Text → List Text
  | [] => [[]]
  | c :: rest => (c :: rest) :: suffixes rest

/-- The suffixes of a text that start after a slash, and the empty one. -/
def afterSlashes : Text → List Text
  | [] => [[]]
  | c :: rest => if c = '/' then rest :: afterSlashes rest else afterSlashes rest

/-- Whether a part stands for a character. -/
def Part.fits : Part → Char → Bool
  | literal expected, c => c = expected
  | anyChar, _ => true
  | anyOf ranges, c => ranges.any fun range => range.has c
  | noneOf ranges, c => !ranges.any fun range => range.has c
  | anyText, _ | anyDirectories, _ => false

/-- Whether the parts stand for all of a text. -/
def fitsAll : List Part → Text → Bool
  | [], text => text.isEmpty
  | .anyText :: parts, text => (suffixes text).any (fitsAll parts)
  | .anyDirectories :: parts, text => fitsAll parts text || (afterSlashes text).any (fitsAll parts)
  | part :: parts, c :: text => part.fits c && fitsAll parts text
  | _ :: _, [] => false

end GlobPattern

/-- A description of paths. -/
structure GlobPattern where
  parts : List GlobPattern.Part
deriving Repr, DecidableEq

namespace GlobPattern

/-- The pattern that a text writes. -/
def ofText (text : Text) : Except Error GlobPattern :=
  (readFrom text.length [] none 0 text).map GlobPattern.mk

/-- Whether a pattern describes a path. -/
def describes (pattern : GlobPattern) (path : Text) : Bool := fitsAll pattern.parts path

end GlobPattern

end PlaybookRepair
