import PlaybookRepair.Text.Basic

/-!
# Source lines

A source line is its number and its raw text; its indentation and its content are read off the raw
text. The indentation of a line is the width of the spaces and tabs it starts with, a tab counting
as one step of two columns.
-/

namespace PlaybookRepair

/-- A line of a document. -/
structure Line where
  /-- The position of the line in its document, from 1. -/
  number : Nat
  /-- The line without its terminator. -/
  raw : Text
deriving Repr, DecidableEq

namespace Line

/-- The width that a tab adds to the indentation of a line. -/
def tabWidth : Nat := 2

/-- The width of the leading spaces and tabs of a text. -/
def indentWidth : Text → Nat
  | ' ' :: rest => 1 + indentWidth rest
  | '\t' :: rest => tabWidth + indentWidth rest
  | _ => 0

/-- The source column at which the line's content starts. -/
def indent (line : Line) : Nat := indentWidth line.raw

/-- The line without the blanks at its ends. -/
def content (line : Line) : Text := Text.trim line.raw

/-- The numbered lines of a document. -/
def ofText (text : Text) : List Line :=
  ((Text.lines text).zipIdx 1).map fun (raw, number) => { number, raw }

end Line

end PlaybookRepair
