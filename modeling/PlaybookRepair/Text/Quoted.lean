import PlaybookRepair.Text.Basic

/-!
# Quoted text

A text is shown in a message between double quotes, with every character that would not be visible
as itself written as an escape: the quote and the backslash, the control characters that have a
letter of their own, and by code point all other characters that are not printable or that attach to
the character before them.
-/

namespace PlaybookRepair.Text

/-- Whether a character has a visible form of its own. -/
def isPrintable (c : Char) : Bool :=
  if c.toNat < 128 then 0x20 ≤ c.toNat && c.toNat < 0x7F else !inRanges unprintableRanges c.toNat

/-- Whether a character attaches to the one before it. -/
def extendsGrapheme (c : Char) : Bool :=
  0x300 ≤ c.toNat && inRanges graphemeExtendRanges c.toNat

/-- A character written by its code point. -/
def codePointEscape (c : Char) : Text :=
  ['\\', 'u', '{'] ++ Nat.toDigits 16 c.toNat ++ ['}']

/-- A character as it appears between double quotes. -/
def quotedChar (c : Char) : Text :=
  match c with
  | '"' => ['\\', '"']
  | '\\' => ['\\', '\\']
  | '\t' => ['\\', 't']
  | '\n' => ['\\', 'n']
  | '\r' => ['\\', 'r']
  | c =>
    if c.toNat = 0 then ['\\', '0']
    else if extendsGrapheme c || !isPrintable c then codePointEscape c
    else [c]

/-- A text between double quotes with its invisible characters escaped. -/
def quoted (text : Text) : Text := '"' :: text.flatMap quotedChar ++ ['"']

end PlaybookRepair.Text
