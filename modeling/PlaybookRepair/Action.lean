import PlaybookRepair.FileTree.Document
import PlaybookRepair.Log

/-!
# Actions

An action is what a part of the program does to its surroundings, as a value: it is done, or it makes
a request and goes on according to the answer. The requests are the only way to reach files, the
environment, the standard streams and the log, so an action can be carried out on the system or on a
world that is a value, and the steps of several actions can be interleaved.
-/

namespace PlaybookRepair

/-- What can be asked of the surroundings. -/
inductive Request
  /-- The text of a document. -/
  | read (path : Path)
  /-- A copy of a document at the path of its backup. -/
  | backUp (path : Path) (suffix : Text)
  /-- A new text for a document. -/
  | write (path : Path) (text : Text)
  /-- Whether a path leads to a directory. -/
  | isDirectory (path : Path)
  /-- The locations of the files below a root. -/
  | survey (root : Path)
  /-- The value of an environment variable. -/
  | lookUp (name : Text)
  /-- All of the standard input. -/
  | readInput
  /-- Text for the standard output. -/
  | print (text : Text)
  | log (entry : LogEntry)
deriving Repr, DecidableEq

/-- What answers a request. -/
abbrev Request.Answer : Request → Type
  | read _ => Except FileError Text
  | backUp .. => Except FileError Path
  | write .. => Except FileError Unit
  | isDirectory _ => Bool
  | survey _ => Except FileError (List Location)
  | lookUp _ => Option Text
  | readInput => Except FileError Text
  | print _ | log _ => Unit

/-- A sequence of requests that ends in a result. -/
inductive Action (α : Type) : Type
  | done (result : α)
  | ask (request : Request) (next : request.Answer → Action α)

namespace Action

variable {α β : Type}

/-- The action that goes on from the result of another one. -/
def andThen (next : α → Action β) : Action α → Action β
  | done result => next result
  | ask request rest => ask request fun answer => (rest answer).andThen next

instance : Monad Action where
  pure := done
  bind action next := action.andThen next

/-- The action of a single request. -/
def request (request : Request) : Action request.Answer := ask request done

/-- An action that logs an entry. -/
def log (level : LogLevel) (message : String) : Action Unit := request (.log ⟨level, message⟩)

/-- An action that logs several entries. -/
def logAll : List LogEntry → Action Unit
  | [] => done ()
  | entry :: rest => ask (.log entry) fun _ => logAll rest

/-- The action without the log entries that are not kept. -/
def limitLog (verbosity : Nat) : Action α → Action α
  | done result => done result
  | ask (.log entry) rest =>
    if entry.keptAt verbosity then ask (.log entry) fun answer => (rest answer).limitLog verbosity
    else (rest ()).limitLog verbosity
  | ask request rest => ask request fun answer => (rest answer).limitLog verbosity

end Action

end PlaybookRepair
