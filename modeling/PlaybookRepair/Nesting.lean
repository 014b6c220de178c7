import PlaybookRepair.ShellBlock

/-!
# Nesting

The nesting of a document that is being written: the play, the list of tasks and the task that are
open, the key whose value continues on the lines below, and the script that is being gathered. An
open section is remembered by the source column of the line that opened it. Plays are written at
column 0, their keys and tasks at column 2, the keys of tasks at column 4.
-/

namespace PlaybookRepair

/-- The column of a play's list marker. -/
def playColumn : Nat := 0

/-- The column of a play's keys. -/
def playKeyColumn : Nat := playColumn + indentStep

/-- The column of a task's list marker. -/
def taskColumn : Nat := playKeyColumn

/-- The column of a task's keys. -/
def taskKeyColumn : Nat := taskColumn + indentStep

/-- The innermost open section of a document. -/
inductive Section
  | document
  | play
  /-- A list of tasks in which no task is open. -/
  | taskList
  | task
deriving Repr, DecidableEq

/-- A key among nested lines whose value is a block scalar. -/
structure InnerLiteral where
  sourceIndent : Nat
  depth : Nat
deriving Repr, DecidableEq

/-- A key whose value continues on the lines below. -/
structure OpenKey where
  /-- The source column of the key. -/
  sourceIndent : Nat
  /-- The column at which the key was written. -/
  depth : Nat
  /-- The value is a block scalar, so every deeper line is text. -/
  literal : Bool
  /-- The last key among the nested lines whose value is a block scalar that has not ended. -/
  innerLiteral : Option InnerLiteral := none
deriving Repr, DecidableEq

/-- What is open in a document. -/
structure Nesting where
  play : Option Nat := none
  taskSection : Option Nat := none
  task : Option Nat := none
  openKey : Option OpenKey := none
  shell : Option ShellBlock := none
deriving Repr, DecidableEq

namespace Nesting

/-- The innermost open section. -/
def innermost (nesting : Nesting) : Section :=
  if nesting.task.isSome then .task
  else if nesting.taskSection.isSome then .taskList
  else if nesting.play.isSome then .play
  else .document

/-- The column of keys in the innermost section. -/
def keyColumn (nesting : Nesting) : Nat :=
  match nesting.innermost with
  | .task => taskKeyColumn
  | .play | .taskList => playKeyColumn
  | .document => 0

/-- The nesting with everything inside the play closed. -/
def closeTasks (nesting : Nesting) : Nesting :=
  { nesting with task := none, taskSection := none, openKey := none }

/-- The nesting with the play closed as well. -/
def reset (nesting : Nesting) : Nesting := { nesting.closeTasks with play := none }

end Nesting

end PlaybookRepair
