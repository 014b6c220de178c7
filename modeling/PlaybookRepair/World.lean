import PlaybookRepair.Action

/-!
# Worlds

A world is a value that answers requests: a file tree, an environment and the standard streams. An
action is carried out on a world by answering its requests one after the other.
-/

namespace PlaybookRepair

/-- Surroundings in which actions can be carried out. -/
structure World where
  tree : FileTree := {}
  environment : List (Text × Text) := []
  input : ByteArray := .empty
  output : Text := []
  log : List LogEntry := []

namespace World

/-- The answer to a request and the world after it. -/
def answer (world : World) : (request : Request) → request.Answer × World
  | .read path => (world.tree.readDocument path, world)
  | .backUp path suffix =>
    match world.tree.backUpDocument path suffix with
    | .ok (tree, backup) => (.ok backup, { world with tree })
    | .error error => (.error error, world)
  | .write path text =>
    match world.tree.writeDocument path text with
    | (tree, none) => (.ok (), { world with tree })
    | (tree, some error) => (.error error, { world with tree })
  | .isDirectory path => (world.tree.isDirectory path, world)
  | .survey root => (world.tree.survey root, world)
  | .lookUp name => (world.environment.lookup name, world)
  | .readInput =>
    match Text.decode? world.input with
    | some text => (.ok text, world)
    | none => (.error (.system .notText), world)
  | .print text => ((), { world with output := world.output ++ text })
  | .log entry => ((), { world with log := world.log ++ [entry] })

end World

/-- The result of an action and the world after it. -/
def Action.carryOut {α : Type} : Action α → World → α × World
  | done result, world => (result, world)
  | ask request next, world =>
    let (answer, world) := world.answer request
    (next answer).carryOut world

end PlaybookRepair
