import PlaybookRepair.FileKind
import PlaybookRepair.KeyedLine

/-!
# Detecting the kind of a file

The kind of a file is told by its path if it lies in a directory for metadata or variables, then by
its content if it has a key of plays near the left margin, then by a directory for tasks or by a
list item at its start.
-/

namespace PlaybookRepair.FileKind

/-- The path with slashes between its components. -/
def normalizePath (path : Text) : Text := path.map fun c => if c = '\\' then '/' else c

/-- What the path of a file of variables holds. -/
def varsMarks : List Text :=
  ["vars/", "defaults/", "group_vars/", "host_vars/"].map String.toList

/-- What the path of a task list holds. -/
def taskMarks : List Text := ["tasks/", "handlers/"].map String.toList

/-- The greatest column of a key that tells a playbook. -/
def playbookKeyColumn : Nat := 2

/-- Whether a line near the left margin has a key that tells a playbook, with or without a list
marker. -/
def isPlaybookLine (line : Line) : Bool :=
  line.indent ≤ playbookKeyColumn &&
    let facts := LineFacts.ofLine line
    facts.hasKey "hosts" || facts.hasKey "tasks" || facts.hasKey "roles"

/-- Whether a line is neither blank nor a comment nor a document marker. -/
def isContentLine (line : Line) : Bool :=
  !line.content.isEmpty && line.content.head? ≠ some '#' && line.content ≠ "---".toList

/-- Whether the first line with content is a list item. -/
def startsWithItem (lines : List Line) : Bool :=
  (lines.find? isContentLine).any fun line => LineFacts.isDashed line.content

/-- The kind of the file with the given path and text. -/
def detect (path text : Text) : FileKind :=
  let path := normalizePath path
  let lines := Line.ofText text
  if Text.holds "meta/main".toList path then .roleMeta
  else if varsMarks.any fun mark => Text.holds mark path then .vars
  else if lines.any isPlaybookLine then .playbook
  else if (taskMarks.any fun mark => Text.holds mark path) || startsWithItem lines then .taskList
  else .unknown

end PlaybookRepair.FileKind
