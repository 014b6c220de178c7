import PlaybookRepair.Number.Numeral

/-!
# Double-precision numbers

A double-precision number is a sign and a significand below `2 ^ 53` times a power of two, or an
infinity, or undefined. Numbers are kept in the one form in which the significand has 53 bits or the
exponent is the least one, so that two numbers other than zero are equal exactly when their fields
are. Reading a numeral rounds its exact value to the nearest number, a tie going to the even
significand; writing a number gives the fewest decimal digits that read back as it.
-/

namespace PlaybookRepair

/-- A double-precision number. -/
inductive Binary64
  /-- The undefined number. -/
  | nan
  | infinite (negative : Bool)
  /-- The number `significand * 2 ^ exponent`, with a sign. -/
  | finite (negative : Bool) (significand : Nat) (exponent : Int)
deriving Repr, DecidableEq

namespace Binary64

/-- The least exponent of a finite number. -/
def minExponent : Int := -1074

/-- The greatest exponent of a finite number. -/
def maxExponent : Int := 971

/-- The quotient rounded to the nearest whole number, a tie going to the even one. -/
def roundQuotient (num den : Nat) : Nat :=
  let quotient := num / den
  let twice := 2 * (num % den)
  if twice > den || (twice == den && quotient % 2 == 1) then quotient + 1 else quotient

/-- A fraction divided by `2 ^ exponent`. -/
def scaleDown (num den : Nat) (exponent : Int) : Nat × Nat :=
  if exponent < 0 then (num * Nat.pow 2 (-exponent).toNat, den)
  else (num, den * Nat.pow 2 exponent.toNat)

/-- The number nearest to a fraction. -/
def ofFraction (negative : Bool) (num den : Nat) : Binary64 :=
  if num = 0 then .finite negative 0 minExponent
  else
    let guess : Int := (Nat.log2 num : Int) - Nat.log2 den - 53
    let scaled := scaleDown num den guess
    let fitted := if scaled.1 / scaled.2 < Nat.pow 2 53 then guess else guess + 1
    let exponent := max fitted minExponent
    let scaled := scaleDown num den exponent
    let rounded := roundQuotient scaled.1 scaled.2
    let (significand, exponent) :=
      if rounded = Nat.pow 2 53 then (Nat.pow 2 52, exponent + 1) else (rounded, exponent)
    if exponent > maxExponent then .infinite negative else .finite negative significand exponent

/-- The number nearest to a numeral. Numerals beyond all exponents of the format are decided by
their count of digits, without forming the power of ten. -/
def ofNumeral (n : Numeral) : Binary64 :=
  let magnitude := n.exponent + (Text.ofNat n.digits).length
  if n.digits = 0 || magnitude < -400 then .finite n.negative 0 minExponent
  else if magnitude > 400 then .infinite n.negative
  else if n.exponent < 0 then ofFraction n.negative n.digits (Nat.pow 10 (-n.exponent).toNat)
  else ofFraction n.negative (n.digits * Nat.pow 10 n.exponent.toNat) 1

/-- Numeric equality, under which the two zeros are equal, extended by the undefined number being
equal to itself. -/
def same : Binary64 → Binary64 → Bool
  | .finite s m e, .finite s' m' e' => m == m' && (m == 0 || (s == s' && e == e'))
  | a, b => a == b

/-- The decimal digits of a number and the position of the point after the first `point` of them. -/
structure Digits where
  digits : Text
  point : Int

/-- Whether a decimal fraction reads back as the positive number `significand * 2 ^ exponent`: it
lies between the midpoints to the neighbours, a midpoint itself counting for an even significand. -/
def readsBack (significand : Nat) (exponent : Int) (num den : Nat) : Bool :=
  ofFraction false num den == .finite false significand exponent

/-- The fewest digits, of at least `count` and at most `count + fuel`, whose value reads back as the
positive number `num / den`; of two candidates the nearer one, of two equally near ones the even
one. -/
def searchDigits (significand : Nat) (exponent : Int) (num den : Nat) (magnitude : Int) :
    Nat → Nat → Digits
  | 0, count => ⟨List.replicate count '0', magnitude⟩
  | fuel + 1, count =>
    -- The grid of `count` digits has the unit `10 ^ shift`.
    let shift : Int := magnitude - count
    let (up, down) :=
      if shift < 0 then (Nat.pow 10 (-shift).toNat, 1) else (1, Nat.pow 10 shift.toNat)
    let floor := num * up / (den * down)
    let nearest := roundQuotient (num * up) (den * down)
    let other := if nearest = floor then floor + 1 else floor
    let fits := fun candidate => readsBack significand exponent (candidate * down) up
    let shownAs := fun candidate : Nat =>
      let digits := Text.ofNat candidate
      (⟨digits, shift + digits.length⟩ : Digits)
    if nearest != 0 && fits nearest then shownAs nearest
    else if other != 0 && fits other then shownAs other
    else searchDigits significand exponent num den magnitude fuel (count + 1)

/-- The shortest digits that read back as the positive number `significand * 2 ^ exponent`. -/
def shortestDigits (significand : Nat) (exponent : Int) : Digits :=
  let (num, den) :=
    if exponent < 0 then (significand, Nat.pow 2 (-exponent).toNat)
    else (significand * Nat.pow 2 exponent.toNat, 1)
  -- The number of digits before the point, zero or negative for a small fraction.
  let magnitude : Int :=
    if num ≥ den then (Text.ofNat (num / den)).length
    else 1 - ((Text.ofNat ((den - 1) / num)).length : Int)
  let found := searchDigits significand exponent num den magnitude 17 1
  { found with digits := (found.digits.reverse.dropWhile (· == '0')).reverse }

/-- How a finite positive number is written: in positional form while the point lies at most
sixteen digits to the right and fewer than five zeros follow it, otherwise with an exponent. -/
def layout (shown : Digits) : Text :=
  let count : Int := shown.digits.length
  let point := shown.point
  if count ≤ point && point ≤ 16 then
    shown.digits ++ List.replicate (point - count).toNat '0' ++ ['.', '0']
  else if 0 < point && point ≤ 16 then
    shown.digits.take point.toNat ++ ['.'] ++ shown.digits.drop point.toNat
  else if -5 < point && point ≤ 0 then
    ['0', '.'] ++ List.replicate (-point).toNat '0' ++ shown.digits
  else
    let exponent := point - 1
    let mark := if exponent < 0 then ['e', '-'] else ['e']
    let tail := match shown.digits.drop 1 with
      | [] => []
      | rest => '.' :: rest
    shown.digits.take 1 ++ tail ++ mark ++ Text.ofNat exponent.natAbs

/-- The text of a number. -/
def text : Binary64 → Text
  | .nan => ".nan".toList
  | .infinite negative => if negative then "-.inf".toList else ".inf".toList
  | .finite negative significand exponent =>
    let shown :=
      if significand = 0 then "0.0".toList else layout (shortestDigits significand exponent)
    if negative then '-' :: shown else shown

end Binary64

end PlaybookRepair
