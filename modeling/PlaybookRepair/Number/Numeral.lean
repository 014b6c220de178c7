import PlaybookRepair.Text.Basic

/-!
# Decimal numerals

A numeral is what a decimal floating-point literal says exactly: a sign, a whole number of units and
the power of ten of a unit. The literals are those with at least one digit before or after an
optional point and an optional exponent, such as `-12`, `1.`, `.5` and `6.02e+23`; the names of the
infinities and of the undefined number are literals as well, but have no numeral.
-/

namespace PlaybookRepair

/-- The exact value of a decimal literal: `digits` units of `10 ^ exponent`, with a sign. -/
structure Numeral where
  negative : Bool
  digits : Nat
  exponent : Int
deriving Repr, DecidableEq

namespace Numeral

/-- The value of a character as a digit of the given base, up to sixteen. -/
def digitValue? (base : Nat) (c : Char) : Option Nat :=
  let value :=
    if '0' ≤ c && c ≤ '9' then c.toNat - '0'.toNat
    else if 'a' ≤ c && c ≤ 'f' then c.toNat - 'a'.toNat + 10
    else if 'A' ≤ c && c ≤ 'F' then c.toNat - 'A'.toNat + 10
    else base
  if value < base then some value else none

/-- The number written by a non-empty sequence of digits of the given base. -/
def natOfDigits? (base : Nat) (text : Text) : Option Nat :=
  match text with
  | [] => none
  | text => text.foldlM (fun value c => (digitValue? base c).map (value * base + ·)) 0

/-- The sign of a literal and what follows it. -/
def splitSign : Text → Bool × Text
  | '-' :: rest => (true, rest)
  | '+' :: rest => (false, rest)
  | rest => (false, rest)

/-- The exponent part of a literal, after its mark. -/
def exponentOf? (text : Text) : Option Int :=
  let (negative, digits) := splitSign text
  (natOfDigits? 10 digits).map fun n => if negative then -(n : Int) else n

/-- The numeral of an unsigned literal, given the digits before and after the point and the text
from the exponent mark on. -/
def assemble? (negative : Bool) (whole fraction rest : Text) : Option Numeral := do
  let digits ← natOfDigits? 10 (whole ++ fraction)
  let exponent ← match rest with
    | [] => some 0
    | mark :: exponent => if mark = 'e' || mark = 'E' then exponentOf? exponent else none
  some { negative, digits, exponent := exponent - fraction.length }

/-- The numeral that a decimal literal writes. -/
def ofText? (text : Text) : Option Numeral :=
  let (negative, rest) := splitSign text
  let whole := rest.takeWhile Char.isDigit
  match rest.dropWhile Char.isDigit with
  | '.' :: rest =>
    assemble? negative whole (rest.takeWhile Char.isDigit) (rest.dropWhile Char.isDigit)
  | rest => assemble? negative whole [] rest

/-- Whether a text is a floating-point literal: a decimal literal or, in any case and with any sign,
the name of an infinity or of the undefined number. -/
def isFloatLiteral (text : Text) : Bool :=
  let name := Text.lowerAscii (splitSign text).2
  name = "inf".toList || name = "infinity".toList || name = "nan".toList || (ofText? text).isSome

end Numeral

end PlaybookRepair
