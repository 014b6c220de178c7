import PlaybookRepair.Yaml.Value

/-!
# The values of scalars

A plain scalar without a tag is a null, a truth value or a number if it is written like one, and a
string otherwise. Whole numbers may be decimal, hexadecimal, octal or binary; a decimal number with
more than one digit and a leading zero is a string. A tag of the core schema asks for one kind of
value, and every other tag leaves the scalar a string.
-/

namespace PlaybookRepair.Yaml

/-- The kinds of value that a tag of the core schema can ask of a scalar. -/
inductive ScalarType
  | boolean
  | integer
  | float
  | null
deriving Repr, DecidableEq

namespace ScalarType

/-- The tag that asks for a kind of value. -/
def tag : ScalarType → Octets
  | boolean => Octets.ofText "tag:yaml.org,2002:bool".toList
  | integer => Octets.ofText "tag:yaml.org,2002:int".toList
  | float => Octets.ofText "tag:yaml.org,2002:float".toList
  | null => Octets.ofText "tag:yaml.org,2002:null".toList

/-- The kind of value that a tag asks for. -/
def ofTag? (tag : Octets) : Option ScalarType :=
  [boolean, integer, float, null].find? fun type => type.tag = tag

/-- A kind of value as messages call it. -/
def description : ScalarType → String
  | boolean => "a boolean"
  | integer => "an integer"
  | float => "a float"
  | null => "null"

end ScalarType

/-- Why a scalar has no value. -/
inductive ScalarError
  /-- A whole number needs more than 64 bits. -/
  | wideInteger (value : Int)
  /-- The text is not of the kind that its tag asks for. -/
  | mismatch (expected : ScalarType) (text : Text)
deriving Repr, DecidableEq

namespace Scalar

/-- The spellings of null. -/
def isNull (text : Text) : Bool :=
  text = "null".toList || text = "Null".toList || text = "NULL".toList || text = "~".toList

/-- The truth value that a text spells. -/
def bool? (text : Text) : Option Bool :=
  if text = "true".toList || text = "True".toList || text = "TRUE".toList then some true
  else if text = "false".toList || text = "False".toList || text = "FALSE".toList then some false
  else none

/-- The text without a sign before it. -/
def dropSign : Text → Text
  | '+' :: rest => rest
  | '-' :: rest => rest
  | rest => rest

/-- Whether a text starts with a sign. -/
def isSigned : Text → Bool
  | '+' :: _ => true
  | '-' :: _ => true
  | _ => false

/-- Whether a text consists of digits that start with a superfluous zero. -/
def isZeroPadded (text : Text) : Bool :=
  match dropSign text with
  | '0' :: c :: rest => (c :: rest).all Char.isDigit
  | _ => false

/-- The number after a base mark, or the decimal number if there is no mark. -/
def magnitude? (isPadded : Bool) : Text → Option Nat
  | '0' :: 'x' :: digits => Numeral.natOfDigits? 16 digits
  | '0' :: 'o' :: digits => Numeral.natOfDigits? 8 digits
  | '0' :: 'b' :: digits => Numeral.natOfDigits? 2 digits
  | digits => if isPadded then none else Numeral.natOfDigits? 10 digits

/-- The whole number that a text spells. -/
def whole? (text : Text) : Option Int :=
  let isPadded := isZeroPadded text
  match text with
  | '-' :: rest => (magnitude? isPadded rest).map fun n => -(n : Int)
  | '+' :: rest => (magnitude? isPadded rest).map Int.ofNat
  | rest => (magnitude? isPadded rest).map Int.ofNat

/-- A whole number as a value. Numbers of more than 64 bits, those from `2 ^ 64` on and those below
`-2 ^ 63`, are refused up to twice as many bits and are no whole numbers beyond. -/
def wholeValue? (text : Text) : Option (Except ScalarError Value) :=
  (whole? text).bind fun n =>
    if -(Int.pow 2 63) ≤ n ∧ n < Int.pow 2 64 then some (.ok (.number (.whole n)))
    else if -(Int.pow 2 127) ≤ n ∧ n < Int.pow 2 128 then some (.error (.wideInteger n))
    else none

/-- The floating-point number that a text spells. A decimal literal that overflows is none. -/
def float? (text : Text) : Option Binary64 :=
  let body := match text with
    | '+' :: rest => rest
    | rest => rest
  if text.head? = some '+' && isSigned body then none
  else if body = ".inf".toList || body = ".Inf".toList || body = ".INF".toList then
    some (.infinite false)
  else if text = "-.inf".toList || text = "-.Inf".toList || text = "-.INF".toList then
    some (.infinite true)
  else if text = ".nan".toList || text = ".NaN".toList || text = ".NAN".toList then some .nan
  else
    match (Numeral.ofText? body).map Binary64.ofNumeral with
    | some (.finite negative significand exponent) =>
      some (.finite negative significand exponent)
    | _ => none

/-- The value of a plain scalar without a tag. -/
def resolve (text : Text) : Except ScalarError Value :=
  if text.isEmpty || isNull text then .ok .null
  else
    match bool? text with
    | some value => .ok (.bool value)
    | none =>
      match wholeValue? text with
      | some outcome => outcome
      | none =>
        match if isZeroPadded text then none else float? text with
        | some value => .ok (.number (.float value))
        | none => .ok (.string text)

/-- The value of a scalar whose tag asks for a kind of value. -/
def convert (expected : ScalarType) (text : Text) : Except ScalarError Value :=
  let value? : Option (Except ScalarError Value) :=
    match expected with
    | .boolean => (bool? text).map fun value => .ok (.bool value)
    | .integer => wholeValue? text
    | .float => (float? text).map fun value => .ok (.number (.float value))
    | .null => if isNull text then some (.ok .null) else none
  value?.getD (.error (.mismatch expected text))

/-- The value of a scalar with a tag that names no local type. -/
def value (tag : Option Octets) (text : Text) (style : ScalarStyle) : Except ScalarError Value :=
  match tag with
  | none => if style = .plain then resolve text else .ok (.string text)
  | some tag =>
    match ScalarType.ofTag? tag with
    | some expected => convert expected text
    | none =>
      if style = .plain && tag.head? = some 0x21 then resolve text else .ok (.string text)

end Scalar

end PlaybookRepair.Yaml
