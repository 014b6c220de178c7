import PlaybookRepair.Yaml.SyntaxError

/-!
# Readings

What is read from a text is a sequence that either comes to its end or breaks off at a syntax error.
What was read before the error stays visible, since a consumer may object to it first.
-/

namespace PlaybookRepair.Yaml

/-- A sequence that ends or breaks off. -/
inductive Reading (α : Type)
  | ended
  | broken (error : SyntaxError)
  | item (first : α) (rest : Reading α)
deriving Repr, DecidableEq

namespace Reading

variable {α : Type}

/-- The reading that starts with the given items. -/
def prepend (items : List α) (rest : Reading α) : Reading α := items.foldr item rest

/-- The number of items. -/
def length : Reading α → Nat
  | ended | broken _ => 0
  | item _ rest => rest.length + 1

/-- The items before the end or the error. -/
def toList : Reading α → List α
  | ended | broken _ => []
  | item first rest => first :: rest.toList

/-- The error at which the reading breaks off. -/
def error? : Reading α → Option SyntaxError
  | ended => none
  | broken error => some error
  | item _ rest => rest.error?

end Reading

end PlaybookRepair.Yaml
