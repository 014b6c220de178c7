import PlaybookRepair.Path

/-!
# Expansion of variables and the home directory

A dollar sign starts the name of a variable, which stands bare or between braces; between braces a
default may follow the name. Two dollar signs stand for one, and a dollar sign that starts neither
stands for itself. A variable that has no value and no default makes the expansion fail. After the
variables a leading tilde is replaced by the home directory, but only one that was already there.

The text is first cut into its parts, so that the variables it needs are known before any is looked
up.
-/

namespace PlaybookRepair.Expansion

/-- A part of a text with variables. -/
inductive Part
  | literal (c : Char)
  | variableValue (name : Text) (default : Option Text)
deriving Repr, DecidableEq

/-- Whether a character can stand in the bare name of a variable. -/
def isNameChar (c : Char) : Bool := Text.isAlphanumeric c || c = '_'

/-- What separates the name of a variable from its default. -/
def defaultMark : Text := [':', '-']

/-- The variable that is named between braces. A mark at the very start belongs to the name. -/
def braced (inside : Text) : Part :=
  let name := Text.before defaultMark inside
  if name.isEmpty || name = inside then .variableValue inside none
  else .variableValue name (some (inside.drop (name.length + defaultMark.length)))

/-- The parts of a text, in which at most `fuel` characters are read. -/
def partsWithin : Nat → Text → List Part
  | 0, _ => []
  | _, [] => []
  | fuel + 1, '$' :: '{' :: rest =>
    if rest.contains '}' then
      let inside := rest.takeWhile (· ≠ '}')
      braced inside :: partsWithin fuel (rest.drop (inside.length + 1))
    else .literal '$' :: .literal '{' :: partsWithin fuel rest
  | fuel + 1, '$' :: '$' :: rest => .literal '$' :: partsWithin fuel rest
  | fuel + 1, '$' :: rest =>
    let name := rest.takeWhile isNameChar
    if name.isEmpty then .literal '$' :: partsWithin fuel rest
    else .variableValue name none :: partsWithin fuel (rest.drop name.length)
  | fuel + 1, c :: rest => .literal c :: partsWithin fuel rest

/-- The parts of a text. -/
def parts (text : Text) : List Part := partsWithin text.length text

/-- The names of the variables in a text. -/
def names (text : Text) : List Text :=
  (parts text).filterMap fun
    | .literal _ => none
    | .variableValue name _ => some name

/-- The text that a part stands for, if it has one. -/
def Part.value? (environment : List (Text × Text)) : Part → Option Text
  | literal c => some [c]
  | variableValue name default => (environment.lookup name).or default

/-- The text with its variables replaced, if all of them have a value. -/
def variables? (environment : List (Text × Text)) (text : Text) : Option Text :=
  ((parts text).mapM (Part.value? environment)).map List.flatten

/-- The name of the variable that holds the home directory. -/
def homeName : Text := "HOME".toList

/-- The home directory, unless it is unknown. -/
def home? (environment : List (Text × Text)) : Option Text :=
  (environment.lookup homeName).filter (!·.isEmpty)

/-- The text with a leading tilde, alone or before a slash, replaced by the home directory. -/
def tilde (environment : List (Text × Text)) (text : Text) : Text :=
  match text with
  | '~' :: rest =>
    if rest.isEmpty || rest.head? = some '/' then
      match home? environment with
      | some home => home ++ rest
      | none => text
    else text
  | _ => text

/-- The text with its variables and its leading tilde replaced, if all variables have a value. -/
def expand? (environment : List (Text × Text)) (text : Text) : Option Path :=
  (variables? environment text).map fun replaced =>
    if text.head? = some '~' then tilde environment replaced else replaced

end PlaybookRepair.Expansion
