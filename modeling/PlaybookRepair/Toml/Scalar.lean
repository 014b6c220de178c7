import PlaybookRepair.Number.Binary64
import PlaybookRepair.Toml.Value

/-!
# Scalars without quotes

A scalar without quotes is a truth value, a number, a date or a time. Digits may be grouped by single
underscores between them. A decimal whole number starts with a zero only if it is zero; numbers with
a base have no sign. A moment is a date, a time or both with a `T` or a space in between and perhaps
an offset; the seconds of a time may be left out.
-/

namespace PlaybookRepair.Toml.Scalar

/-! ## Numbers -/

/-- The digits of a numeral without the underscores that group them. -/
def ungrouped? (isDigit : Char → Bool) (text : Text) : Option Text :=
  let groups := Text.pieces '_' text
  if groups.all fun group => !group.isEmpty && group.all isDigit then some groups.flatten else none

/-- The number that grouped digits of a base write. -/
def natural? (base : Nat) (text : Text) : Option Nat :=
  (ungrouped? (fun c => (Numeral.digitValue? base c).isSome) text).bind (Numeral.natOfDigits? base)

/-- The digits of an unsigned decimal whole number. -/
def decimalDigits? (text : Text) : Option Text :=
  if text.head? = some '0' && text ≠ ['0'] then none else ungrouped? Char.isDigit text

/-- A number with a sign. -/
def signed (negative : Bool) (n : Nat) : Int := if negative then -(n : Int) else n

/-- The whole number that a text writes. -/
def integer? (text : Text) : Option Int :=
  match text with
  | '0' :: 'x' :: digits => (natural? 16 digits).map Int.ofNat
  | '0' :: 'o' :: digits => (natural? 8 digits).map Int.ofNat
  | '0' :: 'b' :: digits => (natural? 2 digits).map Int.ofNat
  | text =>
    let (negative, digits) := Numeral.splitSign text
    ((decimalDigits? digits).bind (Numeral.natOfDigits? 10)).map (signed negative)

/-- Whether a whole number fits into 128 bits, with or without a sign. -/
def isIntegerInRange (n : Int) : Bool := -(Int.pow 2 127) ≤ n && n < Int.pow 2 128

/-- The exponent that follows an exponent mark. -/
def exponent? (text : Text) : Option Int :=
  let (negative, digits) := Numeral.splitSign text
  (natural? 10 digits).map (signed negative)

/-- The numeral that a text with a fraction or an exponent writes. -/
def fractional? (text : Text) : Option Numeral :=
  let (negative, rest) := Numeral.splitSign text
  let significand := rest.takeWhile fun c => c ≠ 'e' && c ≠ 'E'
  let tail := rest.drop significand.length
  let exponent := if tail.isEmpty then some 0 else exponent? tail.tail
  match Text.pieces '.' significand, exponent with
  | [whole], some exponent =>
    if tail.isEmpty then none
    else
      ((decimalDigits? whole).bind (Numeral.natOfDigits? 10)).map fun digits =>
        { negative, digits, exponent }
  | [whole, fraction], some exponent => do
    let whole ← decimalDigits? whole
    let fraction ← ungrouped? Char.isDigit fraction
    let digits ← Numeral.natOfDigits? 10 (whole ++ fraction)
    some { negative, digits, exponent := exponent - fraction.length }
  | _, _ => none

/-- Whether a numeral lies within the range of double precision. -/
def isFractionalInRange (numeral : Numeral) : Bool :=
  match Binary64.ofNumeral numeral with
  | .infinite _ => false
  | _ => true

/-- Whether a text names an infinity or the undefined number. -/
def isNamedNumber (text : Text) : Bool :=
  let name := (Numeral.splitSign text).2
  name = "inf".toList || name = "nan".toList

/-! ## Moments -/

/-- The number that exactly so many digits write. -/
def fixed? (count : Nat) (text : Text) : Option Nat :=
  if text.length = count then Numeral.natOfDigits? 10 text else none

/-- Whether a year has a leap day. -/
def isLeapYear (year : Nat) : Bool := year % 4 = 0 && (year % 100 ≠ 0 || year % 400 = 0)

/-- The number of days of a month. -/
def daysOf (year month : Nat) : Nat :=
  if month = 2 then (if isLeapYear year then 29 else 28)
  else if [4, 6, 9, 11].contains month then 30
  else 31

/-- Whether a text is a date. -/
def isDate (text : Text) : Bool :=
  match Text.pieces '-' text with
  | [year, month, day] =>
    match fixed? 4 year, fixed? 2 month, fixed? 2 day with
    | some year, some month, some day =>
      1 ≤ month && month ≤ 12 && 1 ≤ day && day ≤ daysOf year month
    | _, _, _ => false
  | _ => false

/-- Whether a text is an hour and a minute. -/
def isHourMinute (hour minute : Text) : Bool :=
  ((fixed? 2 hour).any (· ≤ 23)) && ((fixed? 2 minute).any (· ≤ 59))

/-- Whether a text is a number of seconds, perhaps with a fraction. -/
def isSecond (text : Text) : Bool :=
  match Text.pieces '.' text with
  | [whole] => (fixed? 2 whole).any (· ≤ 60)
  | [whole, fraction] =>
    ((fixed? 2 whole).any (· ≤ 60)) && !fraction.isEmpty && fraction.all Char.isDigit
  | _ => false

/-- Whether a text is a time of day. -/
def isTime (text : Text) : Bool :=
  match Text.pieces ':' text with
  | [hour, minute] => isHourMinute hour minute
  | [hour, minute, second] => isHourMinute hour minute && isSecond second
  | _ => false

/-- Whether a text is a time of day with an offset. -/
def isTimeWithOffset (text : Text) : Bool :=
  let time := text.takeWhile fun c => c.isDigit || c = ':' || c = '.'
  match text.drop time.length with
  | ['Z'] | ['z'] => isTime time
  | '+' :: offset | '-' :: offset =>
    isTime time &&
      match Text.pieces ':' offset with
      | [hour, minute] => isHourMinute hour minute
      | _ => false
  | _ => false

/-- The length of a date. -/
def dateLength : Nat := 10

/-- Whether a text is a date, a time or both. -/
def isMoment (text : Text) : Bool :=
  isDate text || isTime text ||
    isDate (text.take dateLength) &&
      match text.drop dateLength with
      | mark :: time =>
        (mark = 'T' || mark = 't' || mark = ' ') && (isTime time || isTimeWithOffset time)
      | [] => false

/-! ## Reading -/

/-- The value that a text without quotes writes. -/
def value (text : Text) : Except Fault Value :=
  if text = "true".toList then .ok (.boolean true)
  else if text = "false".toList then .ok (.boolean false)
  else if isNamedNumber text then .ok .float
  else if isMoment text then .ok .moment
  else
    match integer? text, fractional? text with
    | some n, _ => if isIntegerInRange n then .ok (.integer n) else .error .numberOutOfRange
    | none, some numeral =>
      if isFractionalInRange numeral then .ok .float else .error .numberOutOfRange
    | none, none => .error .expectedValue

/-- Whether a character can stand in a scalar without quotes. -/
def isScalarChar (c : Char) : Bool := c.isAlphanum || "+-_.:".toList.contains c

/-- Reads a scalar without quotes. A date goes on after a space if a digit follows it. -/
def read : Reader Value := fun text =>
  let first := text.takeWhile isScalarChar
  let rest := text.drop first.length
  match rest with
  | ' ' :: digit :: more =>
    if isDate first && digit.isDigit then
      let second := (digit :: more).takeWhile isScalarChar
      (value (first ++ ' ' :: second)).map fun value => (value, (digit :: more).drop second.length)
    else (value first).map fun value => (value, rest)
  | rest => (value first).map fun value => (value, rest)

end PlaybookRepair.Toml.Scalar
