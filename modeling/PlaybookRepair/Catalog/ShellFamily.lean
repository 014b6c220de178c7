import PlaybookRepair.Text.Basic

/-!
# Shell fragments

A line that has lost its place in a script is told by its beginning: the name of a command with an
argument, a keyword of the shell's control flow, an assignment, a conditional of the template
language, or a cmdlet. The forms are tried in order, and the first that fits names the family of the
line.
-/

namespace PlaybookRepair.Catalog

/-- The family of shell syntax that a line belongs to. -/
inductive ShellFamily
  | packageManager
  | command
  | controlFlow
  | assignment
  | templateConditional
  | cmdlet
deriving Repr, DecidableEq

namespace ShellFamily

open Text (isBlank isWordChar after? trimStart)

/-- Whether a text starts with a blank. -/
def startsBlank (text : Text) : Bool := text.head?.any isBlank

/-- Whether a text starts with one of the words and a blank after it. -/
def startsWithWord (words : List Text) (text : Text) : Bool :=
  words.any fun word => (after? word text).any startsBlank

/-- ASCII letters and the underscore start a name. -/
def isNameStart (c : Char) : Bool := c.isAlpha || c = '_'

/-- What follows a non-empty run of word characters at the start of a text. -/
def afterWord? (text : Text) : Option Text :=
  if text.head?.any isWordChar then some (text.dropWhile isWordChar) else none

/-- What follows a non-empty run of blanks at the start of a text. -/
def afterBlanks? (text : Text) : Option Text :=
  if startsBlank text then some (trimStart text) else none

/-- Package managers. -/
def packageManagers : List Text :=
  ["dnf", "yum", "rpm", "apt", "apt-get", "zypper", "pip", "pip3", "subscription-manager",
    "kpatch"].map String.toList

/-- Common commands. -/
def commands : List Text := [
  "echo", "printf", "cat", "grep", "awk", "sed", "find", "ls", "cp", "mv", "rm", "mkdir", "touch",
  "chmod", "chown", "systemctl", "service", "mount", "umount", "df", "free", "ps", "kill", "lsmod",
  "curl", "wget", "tar", "cd", "export", "source", "sudo", "journalctl",
  "needs-restarting"].map String.toList

/-- Commands that stand alone. -/
def lonelyCommands : List Text := ["uptime", "reboot"].map String.toList

/-- Keywords that start a condition or a case. -/
def conditionKeywords : List Text :=
  ["while", "if", "elif", "case", "until"].map String.toList

/-- Keywords and signs that stand alone. -/
def lonelyKeywords : List Text :=
  ["then", "else", "fi", "do", "done", "esac", ";;"].map String.toList

/-- Keywords of conditionals and loops in the template language. -/
def templateKeywords : List Text :=
  ["if", "elif", "else", "endif", "for", "endfor", "set"].map String.toList

/-- An asterisk before a word. -/
def isStarred : Text → Bool
  | '*' :: rest => rest.head?.any isWordChar
  | _ => false

/-- The head of a loop over words: `for`, a name and `in`. -/
def isForLoop (text : Text) : Bool :=
  ((after? "for".toList text).bind afterBlanks?
    |>.bind afterWord? |>.bind afterBlanks? |>.bind (after? "in".toList)).any startsBlank

/-- A test in one or two square brackets. -/
def isTest : Text → Bool
  | '[' :: '[' :: rest => startsBlank rest
  | '[' :: rest => startsBlank rest
  | _ => false

/-- The start of a guarded block. -/
def isTry (text : Text) : Bool :=
  ((after? "try".toList text).map trimStart).any (·.head? = some '{')

/-- The head of a function definition: a name and an empty pair of parentheses. -/
def isFunctionHead : Text → Bool
  | c :: rest =>
    isNameStart c &&
      "()".toList.isPrefixOf (trimStart (rest.dropWhile fun c => isWordChar c || c = '-'))
  | [] => false

/-- An assignment to a variable with a dollar sign. -/
def isDollarAssignment : Text → Bool
  | '$' :: rest => ((afterWord? rest).map trimStart).any (·.head? = some '=')
  | _ => false

/-- An assignment to a variable without spaces around the sign. -/
def isAssignment : Text → Bool
  | c :: rest => isNameStart c && (rest.dropWhile isWordChar).head? = some '='
  | [] => false

/-- A conditional or loop of the template language. -/
def isTemplateConditional : Text → Bool
  | '{' :: '%' :: rest =>
    let rest := trimStart (if rest.head? = some '-' then rest.drop 1 else rest)
    templateKeywords.any fun word =>
      (after? word rest).any fun tail => !tail.head?.any isWordChar
  | _ => false

/-- Two capitalised words, a verb and a noun, joined by a hyphen. -/
def isCmdlet : Text → Bool
  | c :: rest =>
    c.isUpper && rest.head?.any Char.isLower &&
      match rest.dropWhile Char.isLower with
      | '-' :: d :: e :: _ => d.isUpper && e.isAlpha
      | _ => false
  | [] => false

/-- The forms of shell lines, in the order in which they are tried. -/
def forms : List (ShellFamily × (Text → Bool)) := [
  (packageManager, startsWithWord packageManagers),
  (command, startsWithWord commands),
  (command, lonelyCommands.contains),
  (command, startsWithWord ["===".toList]),
  (command, isStarred),
  (controlFlow, isForLoop),
  (controlFlow, startsWithWord conditionKeywords),
  (controlFlow, lonelyKeywords.contains),
  (controlFlow, isTest),
  (controlFlow, isTry),
  (controlFlow, fun text => text.head? = some '}'),
  (controlFlow, isFunctionHead),
  (assignment, isDollarAssignment),
  (assignment, isAssignment),
  (templateConditional, isTemplateConditional),
  (cmdlet, isCmdlet)]

/-- The family of the trimmed content of a line, if it looks like a line of a script. -/
def ofContent? (content : Text) : Option ShellFamily :=
  (forms.find? fun form => form.2 content).map (·.1)

end ShellFamily

end PlaybookRepair.Catalog
