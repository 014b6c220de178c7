import PlaybookRepair.FileTree

/-!
# Documents in a file tree

A document is a file that is read and written as text. Reading and copying ask first whether there
is anything at the path at all; writing makes the directories on the way. The documents under a
directory are found by name: hidden directories are not searched and backup copies are left out.
-/

namespace PlaybookRepair

/-- The bytes of a text. -/
def Text.encode (text : Text) : ByteArray := (String.ofList text).toUTF8

/-- The text of some bytes, if they are one. -/
def Text.decode? (content : ByteArray) : Option Text :=
  (String.fromUTF8? content).map String.toList

/-- The path of the backup copy of a file. -/
def Path.backup (path : Path) (suffix : Text) : Path := path ++ suffix

namespace Location

/-- Whether what is at a location below a root is one of the documents under that root. -/
def isDocument (below : Location) : Bool :=
  match below.getLast? with
  | none => false
  | some name =>
    !below.dropLast.any Path.isHidden && Path.isDocument name && !Path.isBackupName name

/-- The paths of the documents under a root, in order, given the locations of the files below it. -/
def documents (root : Path) (files : List Location) : List Path :=
  Path.sort ((files.filter isDocument).map (Path.descendant root))

end Location

namespace FileTree

/-- The text of the document at a path. -/
def readDocument (tree : FileTree) (path : Path) : Except FileError Text :=
  if !tree.has path then .error (.notFound path)
  else
    match tree.contentAt path with
    | .error error => .error (.system error)
    | .ok content =>
      match Text.decode? content with
      | some text => .ok text
      | none => .error (.system .notText)

/-- The tree after a document has been written, and the error that prevented it. -/
def writeDocument (tree : FileTree) (path : Path) (text : Text) : FileTree × Option FileError :=
  match tree.makeDirectories (Path.components path).reverse.tail with
  | (tree, some error) => (tree, some (.system error))
  | (tree, none) =>
    match tree.store path (Text.encode text) with
    | .ok tree => (tree, none)
    | .error error => (tree, some (.system error))

/-- The tree after a document has been copied to the path of its backup, which replaces an older
backup. -/
def backUpDocument (tree : FileTree) (path : Path) (suffix : Text) :
    Except FileError (FileTree × Path) :=
  if !tree.has path then .error (.notFound path)
  else
    match tree.copy path (path.backup suffix) with
    | .ok tree => .ok (tree, path.backup suffix)
    | .error error => .error (.system error)

/-- The locations, below a root, of the files below it. -/
def survey (tree : FileTree) (root : Path) : Except FileError (List Location) :=
  match tree.find root with
  | .error _ => .error .missingRoot
  | .ok (_, .file _) => .error (.system .notDirectory)
  | .ok (location, .directory) => .ok ((tree.filesBelow location).map Prod.fst)

/-- The paths of the documents under a root. -/
def scan (tree : FileTree) (root : Path) : Except FileError (List Path) :=
  (tree.survey root).map (Location.documents root)

/-- Checks that a root is a directory. -/
def checkRoot (tree : FileTree) (root : Path) : Except FileError Unit :=
  if tree.isDirectory root then .ok () else .error .rootNotDirectory

end FileTree

end PlaybookRepair
