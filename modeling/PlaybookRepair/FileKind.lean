/-!
# Kinds of files

The files that are repaired differ in the shape that their documents have to have. A playbook is a
list of plays and a task list a list of tasks; a file of variables is a mapping; the metadata of a
role is a mapping with certain keys. A file of unknown kind may have any shape.
-/

namespace PlaybookRepair

/-- The kind of a file. -/
inductive FileKind
  | playbook
  | taskList
  | vars
  | roleMeta
  | unknown
deriving Repr, DecidableEq

namespace FileKind

/-- The name of a kind. -/
def name : FileKind → String
  | playbook => "playbook"
  | taskList => "task-list"
  | vars => "vars"
  | roleMeta => "meta"
  | unknown => "unknown"

end FileKind

end PlaybookRepair
