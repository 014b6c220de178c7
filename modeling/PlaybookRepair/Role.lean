import PlaybookRepair.Catalog.Keyword
import PlaybookRepair.Catalog.ShellFamily
import PlaybookRepair.FileKind
import PlaybookRepair.InlineValue
import PlaybookRepair.KeyedLine

/-!
# Roles of lines

Every line of a file has one role: it opens a play or a task, it belongs to one as a keyword, a
module or a line of a script, or it is content of some other kind. The role is found from what the
line shows on its own and from what is known about its surroundings, by rules that are tried in a
fixed order. A line that no rule claims continues what came before.
-/

namespace PlaybookRepair

open Catalog (KeywordScope ShellFamily)

/-- The role of a line. -/
inductive Role
  | blank
  | comment
  /-- The start of a document. -/
  | documentMarker
  /-- The first line of a play. -/
  | playHeader
  /-- The first line of a task; its list marker may have been lost. -/
  | taskHeader (dashed : Bool)
  | taskAttribute
  | playAttribute
  | moduleInvocation
  /-- A line of a script outside a block scalar. -/
  | shellFragment (family : ShellFamily)
  /-- A line with a key that no other rule claims. -/
  | keyValue
  /-- A line with a list marker that no other rule claims. -/
  | listItem
  | continuation
deriving Repr, DecidableEq

namespace Role

/-- Whether a line of this role gives the document its structure rather than content. -/
def isStructural : Role → Bool
  | documentMarker | playHeader | taskHeader _ | taskAttribute | playAttribute
  | moduleInvocation => true
  | _ => false

/-- Whether a line of this role opens a play or a task. -/
def isHeader : Role → Bool
  | playHeader | taskHeader _ => true
  | _ => false

end Role

/-- A line with its role. -/
structure LineToken extends LineFacts where
  role : Role
deriving Repr, DecidableEq

/-- Whether the line has a key whose value is on the lines below. -/
def LineToken.opensBlock (token : LineToken) : Bool :=
  token.key.isSome && InlineValue.opensBlock token.value

/-- What is known about the surroundings of a line. -/
structure Surroundings where
  kind : FileKind := .unknown
  playOpen : Bool := false
  /-- The source column of the open task's header, if a task is open. -/
  taskIndent : Option Nat := none
  /-- A list of tasks of the open play is open. -/
  inTaskSection : Bool := false
  /-- The last line that is neither blank nor a comment ends with a key without an inline value. -/
  previousOpensBlock : Bool := false
  /-- The line is a list item that owns a `hosts` key further down. -/
  itemHasHosts : Bool := false
  /-- Source columns may be trusted. -/
  useIndent : Bool := false
deriving Repr, DecidableEq

/-- A rule claims lines for a role. -/
structure Rule where
  name : String
  claim : LineFacts → Surroundings → Option Role

namespace Rule

/-- The role, if the condition holds. -/
def claimIf (condition : Bool) (role : Role) : Option Role :=
  if condition then some role else none

/-- Three hyphens, alone or before a space, start a document. -/
def documentMarker (facts : LineFacts) (_ : Surroundings) : Option Role :=
  claimIf (facts.content = "---".toList || "--- ".toList.isPrefixOf facts.content) .documentMarker

/-- A line without content is blank. -/
def blank (facts : LineFacts) (_ : Surroundings) : Option Role :=
  claimIf facts.content.isEmpty .blank

/-- A content that starts with a number sign is a comment. -/
def comment (facts : LineFacts) (_ : Surroundings) : Option Role :=
  claimIf (facts.content.head? = some '#') .comment

/-- A `hosts` key opens a play unless it stands, without a list marker, in a play in which no list
of tasks and no task is open. In a playbook a `name` key opens a play where none is open, and as a
list item also when a `hosts` key of its own follows. -/
def playHeader (facts : LineFacts) (around : Surroundings) : Option Role :=
  if facts.hasKey "hosts" then
    claimIf (facts.dashed || !around.playOpen || around.inTaskSection || around.taskIndent.isSome)
      .playHeader
  else if facts.hasKey "name" && around.kind = .playbook then
    claimIf (!around.playOpen || (facts.dashed && around.itemHasHosts)) .playHeader
  else none

/-- Whether a `name` key at the given column is too deep to be the header of a task after the one
that is open. -/
def isBelowTask (around : Surroundings) (indent : Nat) : Bool :=
  around.useIndent && around.taskIndent.any (· + 2 < indent)

/-- A `name` key with a list marker opens a task. Without the marker it does so where a task may
start, except directly below a key that waits for its value. -/
def taskHeader (facts : LineFacts) (around : Surroundings) : Option Role :=
  if !facts.hasKey "name" then none
  else if facts.dashed then some (.taskHeader true)
  else
    claimIf ((around.inTaskSection || around.kind ≠ .playbook) && !around.previousOpensBlock &&
      !isBelowTask around facts.indent) (.taskHeader false)

/-- Whether a keyword that is valid on plays and on tasks belongs to a task. -/
def isTaskScope (around : Surroundings) (indent : Nat) : Bool :=
  match around.taskIndent with
  | some task => !around.useIndent || task < indent
  | none => !around.playOpen

/-- A keyword without a list marker is an attribute of the play or of the task. -/
def keyword (facts : LineFacts) (around : Surroundings) : Option Role :=
  if facts.dashed then none
  else
    match facts.key.bind Catalog.keywordScope? with
    | some .task => some .taskAttribute
    | some .play => some .playAttribute
    | some .shared =>
      some (if isTaskScope around facts.indent then .taskAttribute else .playAttribute)
    | none => none

/-- The name of a module without a list marker is the action of a task. -/
def moduleInvocation (facts : LineFacts) (_ : Surroundings) : Option Role :=
  claimIf (!facts.dashed && facts.key.any Catalog.isModule) .moduleInvocation

/-- A content that looks like a line of a script is a shell fragment. -/
def shellFragment (facts : LineFacts) (_ : Surroundings) : Option Role :=
  (ShellFamily.ofContent? facts.content).map .shellFragment

/-- Any other key without a list marker. -/
def keyValue (facts : LineFacts) (_ : Surroundings) : Option Role :=
  claimIf (!facts.dashed && facts.key.isSome) .keyValue

/-- Any other line with a list marker. -/
def listItem (facts : LineFacts) (_ : Surroundings) : Option Role :=
  claimIf facts.dashed .listItem

/-- The rules in the order in which they are tried. -/
def all : List Rule := [
  ⟨"document-marker", documentMarker⟩,
  ⟨"blank", blank⟩,
  ⟨"comment", comment⟩,
  ⟨"play-header", playHeader⟩,
  ⟨"task-header", taskHeader⟩,
  ⟨"attribute", keyword⟩,
  ⟨"module", moduleInvocation⟩,
  ⟨"shell-fragment", shellFragment⟩,
  ⟨"key-value", keyValue⟩,
  ⟨"list-item", listItem⟩]

end Rule

/-- The role of a line with the given facts: that of the first rule that claims it. -/
def Role.ofFacts (facts : LineFacts) (around : Surroundings) : Role :=
  (Rule.all.findSome? fun rule => rule.claim facts around).getD .continuation

/-- The line with its role in the given surroundings. -/
def LineToken.classify (line : Line) (around : Surroundings) : LineToken :=
  let facts := LineFacts.ofLine line
  { facts with role := .ofFacts facts around }

end PlaybookRepair
