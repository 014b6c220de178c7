import PlaybookRepair.FileError

/-!
# File trees

A file tree is what lies below the working directory: files with their contents, and directories,
each at its location. A location is the list of the names that lead to it. The tree knows of what
lies outside only that the directories above and the top of all directories exist; the location of
such a directory consists of steps up or of the top.

A path is followed step by step, each step starting from a directory. Following it to its end finds
what is there already; following all but its last step finds the directory where a file is created.
-/

namespace PlaybookRepair

/-- The names that lead to a file or directory. -/
abbrev Location := List Text

/-- What is at a location. -/
inductive Node
  | file (content : ByteArray)
  | directory

/-- The files and directories below a directory. -/
structure FileTree where
  nodes : List (Location × Node) := []

namespace FileTree

/-- The segment for a step up. -/
def stepUp : Text := ['.', '.']

/-- The location of the top of all directories. -/
def top : Location := [['/']]

/-- Whether a location is a directory whatever the tree: the tree's own, one above it or the top. -/
def isAncestor (location : Location) : Bool := location = top || location.all (· = stepUp)

/-- What is at a location. -/
def get? (tree : FileTree) (location : Location) : Option Node :=
  if isAncestor location then some .directory else tree.nodes.lookup location

/-- The location below a directory that leads to what is at a location, if it lies below. -/
def below? (directory location : Location) : Option Location :=
  if directory.isPrefixOf location then
    match location.drop directory.length with
    | [] => none
    | name :: rest => if isAncestor [name] then none else some (name :: rest)
  else none

/-- The tree with something else at a location. -/
def set (tree : FileTree) (location : Location) (node : Node) : FileTree where
  nodes :=
    if tree.nodes.any (·.1 = location) then
      tree.nodes.map fun entry => if entry.1 = location then (location, node) else entry
    else tree.nodes ++ [(location, node)]

/-- The files below a directory, each with its location below it. -/
def filesBelow (tree : FileTree) (directory : Location) : List (Location × ByteArray) :=
  tree.nodes.filterMap fun (location, node) =>
    match node with
    | .file content => (below? directory location).map fun location => (location, content)
    | .directory => none

/-- The locations on the way to a location, which is the last of them. -/
def ways (location : Location) : List Location :=
  (List.range location.length).map fun count => location.take (count + 1)

/-- The tree with a directory and the directories on the way to it. -/
def withDirectory (tree : FileTree) (location : Location) : FileTree :=
  (ways location).foldl (fun tree way => tree.set way .directory) tree

/-- The tree with a file and the directories on the way to it. -/
def withFile (tree : FileTree) (location : Location) (content : ByteArray) : FileTree :=
  (tree.withDirectory location.dropLast).set location (.file content)

/-! ## Following paths -/

/-- The longest name, in bytes. -/
def longestName : Nat := 255

/-- The longest path, in bytes. -/
def longestPath : Nat := 4095

/-- The number of bytes of a text. -/
def byteCount (text : Text) : Nat := (String.ofList text).utf8ByteSize

/-- The location where a path starts. -/
def start (path : Path) : Location := if Path.isAbsolute path then top else []

/-- The location above a location. -/
def above (location : Location) : Location :=
  if location = top then top
  else if location.all (· = stepUp) then stepUp :: location
  else location.dropLast

/-- Whether a path ends with a slash, so that it can only be a directory. -/
def endsWithSlash (path : Path) : Bool := path.getLast? = some '/'

/-- The error of a path that cannot be followed at all. -/
def unusable? (path : Path) : Option SystemError :=
  if path.contains '\x00' then some .nullInPath
  else if path.isEmpty then some .notFound
  else if byteCount path > longestPath then some .nameTooLong
  else none

/-- One step from a location, which has to be a directory, to something that exists. -/
def step (tree : FileTree) (location : Location) (segment : Text) :
    Except SystemError Location :=
  match tree.get? location with
  | none => .error .notFound
  | some (.file _) => .error .notDirectory
  | some .directory =>
    if segment = ['.'] then .ok location
    else if segment = stepUp then .ok (above location)
    else if byteCount segment > longestName then .error .nameTooLong
    else
      let next := location ++ [segment]
      if (tree.get? next).isSome then .ok next else .error .notFound

/-- The location that the segments lead to from a location. -/
def walk (tree : FileTree) (location : Location) (segments : List Text) :
    Except SystemError Location :=
  segments.foldlM tree.step location

/-- What a path leads to, with its location. -/
def find (tree : FileTree) (path : Path) : Except SystemError (Location × Node) := do
  if let some error := unusable? path then throw error
  let last := if endsWithSlash path then [['.']] else []
  let location ← tree.walk (start path) (Path.segments path ++ last)
  match tree.get? location with
  | some node => .ok (location, node)
  | none => .error .notFound

/-- Whether a path leads to something. -/
def has (tree : FileTree) (path : Path) : Bool := (tree.find path).isOk

/-- Whether a path leads to a directory. -/
def isDirectory (tree : FileTree) (path : Path) : Bool :=
  match tree.find path with
  | .ok (_, .directory) => true
  | _ => false

/-- The content of a file. -/
def contentAt (tree : FileTree) (path : Path) : Except SystemError ByteArray := do
  match ← tree.find path with
  | (_, .file content) => .ok content
  | (_, .directory) => .error .isDirectory

/-- The directory in which the last step of a path is taken, and that step. -/
def lastStep (tree : FileTree) (path : Path) : Except SystemError (Location × Text) := do
  if let some error := unusable? path then throw error
  let segments := Path.segments path
  let directory ← tree.walk (start path) segments.dropLast
  match tree.get? directory with
  | some .directory => .ok (directory, segments.getLastD ['.'])
  | some (.file _) => .error .notDirectory
  | none => .error .notFound

/-- The location of the file that is opened for writing at a path, whether it exists or not. -/
def writable (tree : FileTree) (path : Path) : Except SystemError Location := do
  let (directory, name) ← tree.lastStep path
  if name = ['.'] || name = stepUp || endsWithSlash path then throw .isDirectory
  if byteCount name > longestName then throw .nameTooLong
  let location := directory ++ [name]
  match tree.get? location with
  | some .directory => .error .isDirectory
  | _ => .ok location

/-- The tree after a file has been written at a path. -/
def store (tree : FileTree) (path : Path) (content : ByteArray) : Except SystemError FileTree := do
  return tree.set (← tree.writable path) (.file content)

/-- The tree after a directory has been made at a path. -/
def makeDirectory (tree : FileTree) (path : Path) : Except SystemError FileTree := do
  let (directory, name) ← tree.lastStep path
  if name = ['.'] || name = stepUp then throw .alreadyExists
  if byteCount name > longestName then throw .nameTooLong
  let location := directory ++ [name]
  if (tree.get? location).isSome then throw .alreadyExists
  return tree.set location .directory

/-- The tree after the directory that the components lead to has been made, with all directories on
the way; the components are given from the last one on. After an error the directories made before
it remain. -/
def makeDirectories (tree : FileTree) : List Path.Component → FileTree × Option SystemError
  | [] => (tree, none)
  | last :: way =>
    let path := Path.ofComponents (last :: way).reverse
    match tree.makeDirectory path with
    | .ok tree => (tree, none)
    | .error error =>
      if error = .notFound then
        match tree.makeDirectories way with
        | (tree, some error) => (tree, some error)
        | (tree, none) =>
          match tree.makeDirectory path with
          | .ok tree => (tree, none)
          | .error error => (tree, if tree.isDirectory path then none else some error)
      else (tree, if tree.isDirectory path then none else some error)

/-- The tree after the file at one path has been copied to another path. The target is emptied before
the source is read, so a file that is copied to itself ends empty. -/
def copy (tree : FileTree) (source target : Path) : Except SystemError FileTree := do
  match ← tree.find source with
  | (_, .directory) => .error .notCopyable
  | (location, .file _) =>
    let destination ← tree.writable target
    let emptied := tree.set destination (.file .empty)
    match emptied.get? location with
    | some node => .ok (emptied.set destination node)
    | none => .error .notFound

end FileTree

end PlaybookRepair
