import PlaybookRepair.Role

/-!
# Shell blocks

A shell block gathers the lines of a script that has fallen apart. It opens on a line of a script or
on the key of a module that runs one, absorbs the lines that belong to the script, and is written as
the module's key with a literal block scalar. A block with an inline command that absorbs nothing
stays a line of its own.
-/

namespace PlaybookRepair

open InlineValue (isBlockIndicator quoteMapping stripQuotes withoutComment)

/-- The step between one level of the written document and the next. -/
def indentStep : Nat := 2

/-- A line of a script, with the column at which it stood. -/
structure ScriptLine where
  indent : Nat
  text : Text
deriving Repr, DecidableEq

/-- A script that is being gathered. -/
structure ShellBlock where
  /-- The key of the module that runs the script. -/
  key : Text
  /-- The header of the block scalar. -/
  indicator : Text
  /-- The source column at which the block opened. -/
  startIndent : Nat
  /-- The source has the header of a block scalar. -/
  explicit : Bool
  /-- The command on the line of the key. -/
  inline : Option Text
  /-- The lines that have been gathered. -/
  body : List ScriptLine
  /-- The blank lines since the last line that was gathered. -/
  pendingBlanks : Nat
deriving Repr, DecidableEq

namespace ShellBlock

/-- The line of a script that a token is. -/
def scriptLine (token : LineToken) : ScriptLine := ⟨token.indent, token.content⟩

/-- The block that opens on a line of a script. -/
def ofFragment (token : LineToken) : ShellBlock where
  key := "shell".toList
  indicator := "|".toList
  startIndent := token.indent
  explicit := false
  inline := none
  body := [scriptLine token]
  pendingBlanks := 0

/-- The block that opens on the key of a module. -/
def ofModule (token : LineToken) : ShellBlock :=
  let explicit := isBlockIndicator token.value
  { key := token.key.getD "shell".toList
    indicator := if explicit then withoutComment token.value else "|".toList
    startIndent := token.indent
    explicit
    inline :=
      if token.value.isEmpty || token.value.head? = some '#' || explicit then none
      else some token.value
    body := []
    pendingBlanks := 0 }

/-- Whether the block is nothing but a key. -/
def isBare (block : ShellBlock) : Bool :=
  !block.explicit && block.inline.isNone && block.body.isEmpty

/-- Whether a line that is not blank belongs to the block. A block scalar of the source ends by its
indentation alone. A bare key takes lines of a script but no keys, which would be the arguments of
its module. Any other block ends at a line of the document's structure that is not indented deeper
than the block's start. -/
def accepts (block : ShellBlock) (token : LineToken) : Bool :=
  if block.explicit then block.startIndent < token.indent
  else if block.isBare then
    block.startIndent ≤ token.indent &&
      match token.role with
      | .shellFragment _ | .continuation => true
      | _ => false
  else if token.role.isStructural then block.startIndent < token.indent
  else
    match token.role with
    | .keyValue => !token.opensBlock || block.startIndent < token.indent
    | .comment | .listItem => block.startIndent ≤ token.indent
    | _ => true

/-- The block with one more line, after the blank lines before it unless it would start with
them. -/
def push (block : ShellBlock) (token : LineToken) : ShellBlock :=
  let blanks :=
    if block.body.isEmpty && block.inline.isNone then []
    else List.replicate block.pendingBlanks ⟨0, []⟩
  { block with body := block.body ++ blanks ++ [scriptLine token], pendingBlanks := 0 }

/-- The block taken up again after it was closed; the blank lines since then stay outside. -/
def reopen (block : ShellBlock) : ShellBlock := { block with pendingBlanks := 0 }

/-- The block after a blank line. -/
def pushBlank (block : ShellBlock) : ShellBlock :=
  { block with pendingBlanks := block.pendingBlanks + 1 }

/-- The key under which a script of several lines runs: modules that take a single command give way
to the shell modules beside them. -/
def scriptKey (key : Text) : Text :=
  let name := Catalog.moduleName key
  let collection := key.take (key.length - name.length)
  if name = "command".toList then collection ++ "shell".toList
  else if name = "win_command".toList then collection ++ "win_shell".toList
  else key

/-- The text of a key with an optional inline command. -/
def keyLine (key : Text) : Option Text → Text
  | some value => key ++ ": ".toList ++ quoteMapping value
  | none => key ++ [':']

/-- The column of the first line with text. -/
def baseIndent (body : List ScriptLine) : Nat :=
  ((body.find? fun line => !line.text.isEmpty).map (·.indent)).getD 0

/-- The written lines of a block as pairs of a column, counted from the key, and a text. The first
line with text fixes the indentation of the script; with `keepRelative`, lines that stand right of
it in a block scalar of the source keep their distance, and no line stands left of it. -/
def render (block : ShellBlock) (keepRelative : Bool) : List (Nat × Text) :=
  if !block.explicit && block.body.isEmpty then [(0, keyLine block.key block.inline)]
  else
    let key := if block.explicit then block.key else scriptKey block.key
    let seed := block.inline.toList.map fun value => (indentStep, stripQuotes value)
    let base := baseIndent block.body
    let lines := block.body.map fun line =>
      if line.text.isEmpty then (0, [])
      else
        let extra := if keepRelative && block.explicit then line.indent - base else 0
        (indentStep + extra, line.text)
    (0, key ++ ": ".toList ++ block.indicator) :: seed ++ lines

end ShellBlock

end PlaybookRepair
