import PlaybookRepair.Path

/-!
# File errors

What can go wrong with a file: it does not exist, a directory to be searched is not one, or the
system refuses an operation. The system's errors are told by their numbers; a few have none.
-/

namespace PlaybookRepair

/-- An error of an operation on files. -/
inductive SystemError
  /-- An error of the operating system with its number and its wording. -/
  | numbered (code : Nat) (wording : String)
  /-- The content of a file is not a text. -/
  | notText
  /-- Something that is not a file was to be copied. -/
  | notCopyable
  /-- A path holds a null character. -/
  | nullInPath
deriving Repr, DecidableEq

namespace SystemError

/-- Nothing is there. -/
def notFound : SystemError := numbered 2 "No such file or directory"

/-- Something is there already. -/
def alreadyExists : SystemError := numbered 17 "File exists"

/-- A file stands where a directory is needed. -/
def notDirectory : SystemError := numbered 20 "Not a directory"

/-- A directory stands where a file is needed. -/
def isDirectory : SystemError := numbered 21 "Is a directory"

/-- A name or a path is longer than any file's. -/
def nameTooLong : SystemError := numbered 36 "File name too long"

/-- The wording of a system error. -/
def message : SystemError → String
  | numbered code wording => s!"{wording} (os error {code})"
  | notText => "stream did not contain valid UTF-8"
  | notCopyable => "the source path is neither a regular file nor a symlink to a regular file"
  | nullInPath => "file name contained an unexpected NUL byte"

end SystemError

/-- An error of an operation on documents. -/
inductive FileError
  | notFound (path : Path)
  | system (error : SystemError)
  | invalidRoot (reason : String)
deriving Repr, DecidableEq

namespace FileError

/-- The wording of a file error. -/
def message : FileError → String
  | notFound path => "File not found: " ++ String.ofList path
  | system error => "IO error: " ++ error.message
  | invalidRoot reason => "Invalid root: " ++ reason

/-- The error for a root that does not exist when it is searched. -/
def missingRoot : FileError := invalidRoot "root directory not found"

/-- The error for a root that is not a directory. -/
def rootNotDirectory : FileError := invalidRoot "Directory does not exist"

end FileError

end PlaybookRepair
