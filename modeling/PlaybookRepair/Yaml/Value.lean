import PlaybookRepair.Number.Binary64
import PlaybookRepair.Yaml.Token

/-!
# YAML values

The values that a YAML document can hold. A mapping is the list of its entries in the order in which
they are written, but two mappings are the same when they have the same entries in any order.
-/

namespace PlaybookRepair.Yaml

/-- A number: whole numbers and floating-point numbers are never the same. -/
inductive Number
  | whole (value : Int)
  | float (value : Binary64)
deriving Repr, DecidableEq

namespace Number

/-- Whether two numbers are the same; the undefined number is the same as itself. -/
def same : Number → Number → Bool
  | whole a, whole b => a == b
  | float a, float b => a.same b
  | _, _ => false

/-- The text of a number. -/
def text : Number → Text
  | whole value =>
    if value < 0 then '-' :: Text.ofNat value.natAbs else Text.ofNat value.natAbs
  | float value => value.text

end Number

/-- A value. -/
inductive Value
  | null
  | bool (value : Bool)
  | number (value : Number)
  | string (value : Text)
  | sequence (items : List Value)
  | mapping (entries : List (Value × Value))
  | tagged (tag : Octets) (value : Value)
deriving Repr

namespace Value

mutual

/-- Whether two values are the same. -/
def same : Value → Value → Bool
  | null, null => true
  | bool a, bool b => a == b
  | number a, number b => a.same b
  | string a, string b => a == b
  | sequence xs, sequence ys => sameItems xs ys
  | mapping xs, mapping ys => xs.length == ys.length && entriesIn xs ys
  | tagged s a, tagged t b => s == t && same a b
  | _, _ => false

/-- Whether two lists of values agree place by place. -/
def sameItems : List Value → List Value → Bool
  | [], [] => true
  | x :: xs, y :: ys => same x y && sameItems xs ys
  | _, _ => false

/-- Whether every entry of the first list is among those of the second. -/
def entriesIn : List (Value × Value) → List (Value × Value) → Bool
  | [], _ => true
  | (key, value) :: xs, ys =>
    ys.any (fun entry => same key entry.1 && same value entry.2) && entriesIn xs ys

end

/-- The value of the entry with the given string as its key. -/
def entry? (name : Text) : Value → Option Value
  | mapping entries => (entries.find? fun entry => entry.1.same (string name)).map (·.2)
  | _ => none

end Value

end PlaybookRepair.Yaml
