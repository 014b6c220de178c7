import PlaybookRepair.Yaml.Cursor

/-!
# Gaps in scalars

In a plain or quoted scalar a gap is a run of spaces, tabs and line breaks between other characters.
A gap within a line stands for itself. A gap that breaks the line loses the spaces around its
breaks, and its first line feed is folded: alone it counts as a space, before further breaks as
nothing.
-/

namespace PlaybookRepair.Yaml

/-- The part of a gap that has been read. -/
structure Gap where
  /-- The spaces and tabs of a gap without a line break. -/
  spaces : Text := []
  /-- The gap has a line break; an escaped one leaves no text of its own. -/
  broken : Bool := false
  /-- The text of the first line break. -/
  firstBreak : Text := []
  /-- The text of the line breaks after the first. -/
  laterBreaks : Text := []
deriving Repr, DecidableEq

namespace Gap

/-- The gap between two characters that stand side by side. -/
def empty : Gap := {}

/-- The gap that starts with an escaped line break. -/
def escapedBreak : Gap := { broken := true }

/-- Whether nothing separates the characters around the gap. -/
def isEmpty (gap : Gap) : Bool := gap.spaces.isEmpty && !gap.broken

/-- The gap extended by a space or tab. -/
def addSpace (gap : Gap) (c : Char) : Gap :=
  if gap.broken then gap else { gap with spaces := gap.spaces ++ [c] }

/-- The gap extended by a line break. -/
def addBreak (gap : Gap) (text : Text) : Gap :=
  if gap.broken then { gap with laterBreaks := gap.laterBreaks ++ text }
  else { broken := true, firstBreak := text }

/-- What the gap contributes to the value of its scalar. -/
def text (gap : Gap) : Text :=
  if !gap.broken then gap.spaces
  else if gap.firstBreak = ['\n'] then
    if gap.laterBreaks.isEmpty then [' '] else gap.laterBreaks
  else gap.firstBreak ++ gap.laterBreaks

end Gap

end PlaybookRepair.Yaml
