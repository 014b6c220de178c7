import PlaybookRepair.CommandLine

/-!
# The program

Actions are carried out on the system: each request becomes a few system calls. Nothing is decided
here.
-/

namespace PlaybookRepair.Main

/-- The file system's entry for a path. -/
def entryOf (path : Path) : IO.FS.DirEntry where
  root := String.ofList path
  fileName := ""

/-- The system's number and wording of an error. -/
def systemError (error : IO.Error) : SystemError :=
  let numbered := fun (code : UInt32) wording => SystemError.numbered code.toNat wording
  match error with
  | .alreadyExists _ code wording | .interrupted _ code wording
  | .noFileOrDirectory _ code wording | .invalidArgument _ code wording
  | .permissionDenied _ code wording | .resourceExhausted _ code wording
  | .inappropriateType _ code wording | .noSuchThing _ code wording
  | .otherError code wording | .resourceBusy code wording | .resourceVanished code wording
  | .unsupportedOperation code wording | .hardwareFault code wording
  | .unsatisfiedConstraints code wording | .illegalOperation code wording
  | .protocolError code wording | .timeExpired code wording => numbered code wording
  | .unexpectedEof => numbered 0 "unexpected end of file"
  | .userError wording => numbered 0 wording

/-- The result of system calls or the error that ended them. -/
def attempt {α : Type} (calls : IO α) : IO (Except FileError α) := do
  try return .ok (← calls)
  catch error => return .error (.system (systemError error))

/-- Reads a document. -/
def read (path : Path) : IO (Except FileError Text) := do
  if !(← (entryOf path).root.pathExists) then return .error (.notFound path)
  return (← attempt (IO.FS.readBinFile (String.ofList path))).bind fun content =>
    match Text.decode? content with
    | some text => .ok text
    | none => .error (.system .notText)

/-- Copies a document to its backup. -/
def backUp (path : Path) (suffix : Text) : IO (Except FileError Path) := do
  if !(← (entryOf path).root.pathExists) then return .error (.notFound path)
  if ← (entryOf path).root.isDir then return .error (.system .notCopyable)
  let backup := path.backup suffix
  attempt do
    let source ← IO.FS.Handle.mk (String.ofList path) .read
    IO.FS.writeBinFile (String.ofList backup) .empty
    IO.FS.writeBinFile (String.ofList backup) (← source.readBinToEnd)
    return backup

/-- Writes a document. -/
def write (path : Path) (text : Text) : IO (Except FileError Unit) := attempt do
  let directory := Path.ofComponents (Path.components path).dropLast
  if !directory.isEmpty then IO.FS.createDirAll (String.ofList directory)
  IO.FS.writeBinFile (String.ofList path) (Text.encode text)

/-- The locations of the files below a directory, hidden directories aside. -/
partial def filesBelow (directory : IO.FS.DirEntry) (way : Location) : IO (List Location) := do
  let entries ← directory.path.readDir
  let found ← entries.toList.mapM fun entry => do
    let location := way ++ [entry.fileName.toList]
    if !(← entry.path.isDir) then return [location]
    if Path.isHidden entry.fileName.toList then return []
    filesBelow entry location
  return found.flatten

/-- Surveys a root. -/
def survey (root : Path) : IO (Except FileError (List Location)) := do
  if !(← (entryOf root).root.pathExists) then return .error .missingRoot
  attempt (filesBelow { root := String.ofList root, fileName := "." } [])

/-- Everything that can still be read from a stream. -/
partial def remaining (stream : IO.FS.Stream) (before : ByteArray) : IO ByteArray := do
  let more ← stream.read 65536
  if more.isEmpty then return before else remaining stream (before ++ more)

/-- Answers a request. -/
def answer : (request : Request) → IO request.Answer
  | .read path => read path
  | .backUp path suffix => backUp path suffix
  | .write path text => write path text
  | .isDirectory path => (entryOf path).root.isDir
  | .survey root => survey root
  | .lookUp name => do return (← IO.getEnv (String.ofList name)).map String.toList
  | .readInput => do
    match Text.decode? (← remaining (← IO.getStdin) .empty) with
    | some text => return .ok text
    | none => return .error (.system .notText)
  | .print text => IO.print (String.ofList text)
  | .log entry => IO.eprintln entry.shown

/-- Carries out an action on the system. -/
def carryOut {α : Type} : Action α → IO α
  | .done result => return result
  | .ask request next => do carryOut (next (← answer request))

end PlaybookRepair.Main

open PlaybookRepair in
/-- Carries out the command line and ends with its exit code. -/
def main (arguments : List String) : IO UInt32 := do
  let exit ← Main.carryOut (CommandLine.perform (arguments.map String.toList))
  if let some message := exit.message then IO.eprintln message
  return exit.code.toUInt32
