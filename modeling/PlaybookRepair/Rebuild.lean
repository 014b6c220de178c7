import PlaybookRepair.Tracker

/-!
# Rebuilding a document

A document is rebuilt by classifying its lines one after the other and feeding them to the tracker.
What the tracker has open at a line is part of the surroundings in which the line is classified. So
is one fact about the lines below: a list item may own a `hosts` key further down, before the next
item that starts with a name or with hosts and before the end of the document, and is then the first
line of a play.
-/

namespace PlaybookRepair

namespace Rebuild

/-- Whether a line bounds the search for a `hosts` key. -/
def boundsHosts (facts : LineFacts) : Bool :=
  facts.content = "---".toList ||
    (facts.dashed && (facts.hasKey "name" || facts.hasKey "hosts"))

/-- For each line whether it is a list item that owns a `hosts` key further down, and whether such a
key stands at the start of the lines before any bound. -/
def hostsBelow : List LineFacts → List Bool × Bool
  | [] => ([], false)
  | facts :: rest =>
    let (owns, below) := hostsBelow rest
    let above :=
      if boundsHosts facts then false
      else (!facts.dashed && facts.hasKey "hosts") || below
    ((facts.dashed && below) :: owns, above)

/-- For each line whether it is a list item that owns a `hosts` key further down. -/
def ownsHosts (lines : List Line) : List Bool := (hostsBelow (lines.map .ofLine)).1

/-- What is carried from line to line. -/
structure State where
  tracker : Tracker
  /-- The last line that is neither blank nor a comment ends with a key without an inline value. -/
  previousOpensBlock : Bool := false
deriving Repr, DecidableEq

namespace State

/-- The state before the first line. -/
def start (mode : RebuildMode) (kind : FileKind) : State where
  tracker := .start mode kind

/-- The next line with its role. -/
def classify (state : State) (line : Line) (itemHasHosts : Bool) : LineToken :=
  .classify line (state.tracker.surroundings state.previousOpensBlock itemHasHosts)

/-- The state after a classified line. -/
def push (state : State) (token : LineToken) : State where
  tracker := state.tracker.push token
  previousOpensBlock :=
    if token.role = .blank || token.role = .comment then state.previousOpensBlock
    else token.opensBlock

/-- The state after one more line. -/
def step (state : State) (line : Line) (itemHasHosts : Bool) : State :=
  state.push (state.classify line itemHasHosts)

end State

/-- The state after the given lines, each with whether it owns a `hosts` key. -/
def run (state : State) (lines : List (Line × Bool)) : State :=
  lines.foldl (fun state line => state.step line.1 line.2) state

end Rebuild

/-- The rebuilt document of a text of the given kind. -/
def rebuild (mode : RebuildMode) (kind : FileKind) (text : Text) : Rebuilt :=
  let lines := Line.ofText text
  (Rebuild.run (.start mode kind) (lines.zip (Rebuild.ownsHosts lines))).tracker.finish

end PlaybookRepair
