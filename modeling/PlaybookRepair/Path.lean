import PlaybookRepair.Text.Basic

/-!
# Paths

A path is kept as it was written and is shown that way. Its meaning is the list of its components:
repeated slashes, a slash at the end and a single dot that is not the first component add none.
Paths are ordered component by component, not character by character, so that a directory stays
together with what is below it.
-/

namespace PlaybookRepair

/-- A path as it was written. -/
abbrev Path := Text

namespace Path

/-- A step of a path. -/
inductive Component
  /-- The top of all directories. -/
  | top
  /-- The directory that a relative path starts from, if the path names it. -/
  | here
  /-- The directory above. -/
  | up
  | name (text : Text)
deriving Repr, DecidableEq

/-- The text of a component. -/
def Component.text : Component → Text
  | top => []
  | here => ['.']
  | up => ['.', '.']
  | name text => text

/-- The key by which components are ordered: a name comes after the other components, and names are
ordered by their characters. -/
def Component.orderKey : Component → List Nat
  | top => [0]
  | here => [1]
  | up => [2]
  | name text => 3 :: text.map Char.toNat

/-- Whether a path starts from the top of all directories. -/
def isAbsolute (path : Path) : Bool := path.head? = some '/'

/-- The texts between the slashes of a path. -/
def segments (path : Path) : List Text := (Text.pieces '/' path).filter (!·.isEmpty)

/-- The component of a segment; a single dot has none. -/
def componentOf? (segment : Text) : Option Component :=
  if segment = ['.'] then none else if segment = ['.', '.'] then some .up else some (.name segment)

/-- The components of a path. -/
def components (path : Path) : List Component :=
  let steps := (segments path).filterMap componentOf?
  if isAbsolute path then .top :: steps
  else if (Text.pieces '/' path).head? = some ['.'] then .here :: steps
  else steps

/-- The path with the given components. -/
def ofComponents (components : List Component) : Path :=
  if components = [.top] then ['/'] else Text.join ['/'] (components.map Component.text)

/-- Whether two paths have the same components. -/
def same (left right : Path) : Bool := components left = components right

/-- The key by which paths are ordered. -/
def orderKey (path : Path) : List (List Nat) := (components path).map Component.orderKey

/-- Whether a path comes before another one or is the same. -/
def precedes (left right : Path) : Bool :=
  !(orderKey right).lex (orderKey left) fun first second => first.lex second Nat.blt

/-- The paths in order; the same paths stay in the order in which they were given. -/
def sort (paths : List Path) : List Path := paths.mergeSort precedes

/-- The paths without those that are the same as the one before them. -/
def withoutRepeats : List Path → List Path
  | [] => []
  | path :: rest =>
    match withoutRepeats rest with
    | [] => [path]
    | next :: more => if same path next then path :: more else path :: next :: more

/-- The path of an entry of a directory. -/
def child (directory : Path) (name : Text) : Path :=
  if directory.isEmpty || directory.getLast? = some '/' then directory ++ name
  else directory ++ '/' :: name

/-- The path of what is reached from a directory by the given names. -/
def descendant (directory : Path) (names : List Text) : Path := names.foldl child directory

/-- The path that leads from a root to what is below it. -/
def below (root path : Path) : Path :=
  ofComponents ((components path).drop (components root).length)

/-- The name that a path ends with, if it ends with a name. -/
def fileName? (path : Path) : Option Text :=
  match (components path).getLast? with
  | some (.name text) => some text
  | _ => none

/-- The part of a file name after its last dot; a dot that the name starts with does not count. -/
def extension? (name : Text) : Option Text :=
  let extension := Text.afterLast '.' name
  if extension.length + 1 < name.length then some extension else none

/-- The extensions of documents. -/
def documentExtensions : List Text := ["yml", "yaml"].map String.toList

/-- Whether a path has the extension of a document. -/
def isDocument (path : Path) : Bool :=
  ((fileName? path).bind extension?).any fun extension => documentExtensions.contains extension

/-- How the names of backup copies end. -/
def backupEndings : List Text := [".backup", ".bak", ".orig", "~"].map String.toList

/-- Whether a file name is the name of a backup copy. -/
def isBackupName (name : Text) : Bool := backupEndings.any fun ending => Text.endsWith name ending

/-- Whether a name is hidden. -/
def isHidden (name : Text) : Bool := name.head? = some '.'

end Path

end PlaybookRepair
