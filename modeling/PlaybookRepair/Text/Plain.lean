import PlaybookRepair.Text.Basic

/-!
# Text without control sequences

Text that is not written to a terminal is freed of what only a terminal would obey: control
characters that are not white space, and the sequences that start with the escape character. Such a
sequence is an escape character with another character, perhaps after intermediate ones; a control
sequence, which ends with a letter or a similar character; or a string of commands, which ends with
another escape character. White space cuts the first two kinds short and is kept.
-/

namespace PlaybookRepair.Text

/-- What a reader of text for a terminal is in the middle of. -/
inductive ControlState
  | plain
  /-- An escape character has been read. -/
  | escape
  /-- An escape character and intermediate characters have been read. -/
  | intermediate
  /-- A control sequence. -/
  | sequence
  /-- A string of commands; a system command ends with a bell as well. -/
  | commands (isSystem : Bool)
deriving Repr, DecidableEq

/-- The character that starts a sequence. -/
def escapeChar : Char := '\x1B'

/-- Whether a character breaks a sequence off. -/
def cancelsSequence (c : Char) : Bool := c.toNat = 0x18 || c.toNat = 0x1A

/-- Whether an ASCII character is white space. -/
def isAsciiSpace (c : Char) : Bool := c = ' ' || c = '\t' || c = '\n' || c = '\x0C' || c = '\r'

/-- Whether a control character is white space. -/
def isControlSpace (c : Char) : Bool := isAsciiSpace c && c ≠ ' '

/-- The state after an escape character and the given one. -/
def ControlState.afterEscape (c : Char) : ControlState :=
  if c = '[' then sequence
  else if c = ']' then commands true
  else if c = 'P' || c = 'X' || c = '^' || c = '_' then commands false
  else if 0x20 ≤ c.toNat && c.toNat ≤ 0x2F then intermediate
  else if c.toNat < 0x20 || c.toNat = 0x7F then escape
  else plain

/-- The state after one more character, unless the character is kept. -/
def ControlState.after? (c : Char) : ControlState → Option ControlState
  | plain => if isAsciiSpace c || (0x20 < c.toNat && c.toNat ≠ 0x7F) then none else some plain
  | escape => if isControlSpace c then none else some (afterEscape c)
  | intermediate =>
    if isControlSpace c then none
    else some (if c.toNat < 0x30 || c.toNat = 0x7F then intermediate else plain)
  | sequence =>
    if isControlSpace c then none
    else some (if c.toNat < 0x40 || c.toNat = 0x7F then sequence else plain)
  | commands isSystem => some (if isSystem && c = '\x07' then plain else commands isSystem)

/-- What is kept of a text that goes on in the given state. -/
def plainFrom (state : ControlState) : Text → Text
  | [] => []
  | c :: rest =>
    if c = escapeChar then plainFrom .escape rest
    else if cancelsSequence c then plainFrom .plain rest
    else if 0x80 ≤ c.toNat then c :: plainFrom .plain rest
    else
      match state.after? c with
      | some state => plainFrom state rest
      | none => c :: plainFrom .plain rest

/-- The text without control sequences and control characters. -/
def plain (text : Text) : Text := plainFrom .plain text

end PlaybookRepair.Text
