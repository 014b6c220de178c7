import PlaybookRepair.Proofs.FileTree.Kinds
import PlaybookRepair.Run
import PlaybookRepair.World

/-!
# The share of one file

What the processing of one file asks of its surroundings, and what it owns of the tree: the place of
the file and the place of its backup (`Run.Owns`). A request about the file changes only what the file
owns, and the answer depends only on that and on the kinds of things on the way of the backup
(`Run.Handles.answer`).
-/

namespace PlaybookRepair

open FileTree (kind? way Grows SameDirectories)

namespace Run

/-- A path leads to a file. -/
def IsFile (tree : FileTree) (path : Path) : Prop :=
  ∃ location, tree.writable path = .ok location ∧ tree.kind? location = some false

/-- The place of the backup of a file. -/
def IsTarget (options : RunOptions) (tree : FileTree) (path : Path) (location : Location) : Prop :=
  IsFile tree path ∧ ∃ suffix, options.backupSuffix = some suffix ∧
    tree.writable (path.backup suffix) = .ok location

/-- The places of a file and of its backup. -/
def Owns (options : RunOptions) (tree : FileTree) (path : Path) (location : Location) : Prop :=
  tree.writable path = .ok location ∨ IsTarget options tree path location

/-- What is still to be done for a file: it is read, and if it is there it may be copied to its backup
and overwritten, and in the end there is a report on it. -/
inductive Handles (options : RunOptions) (tree : FileTree) (path : Path) : Action Report → Prop
  | done {report : Report} (about : report.path = path) : Handles options tree path (.done report)
  | log {entry : LogEntry} {next : Unit → Action Report}
      (rest : Handles options tree path (next ())) :
      Handles options tree path (.ask (.log entry) next)
  | read {next : Except FileError Text → Action Report}
      (failed : ∀ error, Handles options tree path (next (.error error)))
      (succeeded : IsFile tree path → ∀ text, Handles options tree path (next (.ok text))) :
      Handles options tree path (.ask (.read path) next)
  | backUp {suffix : Text} {next : Except FileError Path → Action Report}
      (isFile : IsFile tree path) (isSuffix : options.backupSuffix = some suffix)
      (rest : ∀ answer, Handles options tree path (next answer)) :
      Handles options tree path (.ask (.backUp path suffix) next)
  | write {text : Text} {next : Except FileError Unit → Action Report}
      (isFile : IsFile tree path) (rest : ∀ answer, Handles options tree path (next answer)) :
      Handles options tree path (.ask (.write path text) next)

variable {options : RunOptions} {tree : FileTree} {path : Path}

theorem Handles.logAll {next : Unit → Action Report} (rest : Handles options tree path (next ()))
    (entries : List LogEntry) : Handles options tree path (Action.logAll entries >>= next) := by
  induction entries with
  | nil => exact rest
  | cons entry entries ih => exact .log ih

theorem Handles.logAll_if {next : Action Report} (rest : Handles options tree path next)
    (asked : Prop) [Decidable asked] (entries : List LogEntry) :
    Handles options tree path (if asked then Action.logAll entries >>= fun _ => next else next) := by
  split
  · exact .logAll rest entries
  · exact rest

theorem Handles.pure {report : Report} (about : report.path = path) :
    Handles options tree path (Pure.pure report) :=
  .done about

theorem Handles.repairLogged {defaults : MetaDefaults} {text : Text}
    {next : RepairResult → Action Report}
    (rest : Handles options tree path (next (repair defaults path text))) :
    Handles options tree path (repairLogged defaults path text >>= next) := by
  unfold Run.repairLogged
  dsimp only
  generalize (Repair.course (.detect path text) defaults text).entries path = entries
  induction entries with
  | nil => exact rest
  | cons entry entries ih => exact .log ih

theorem Handles.writeBack (isFile : IsFile tree path) {text : Text}
    {next : Except FileError Unit → Action Report}
    (rest : ∀ answer, Handles options tree path (next answer)) :
    Handles options tree path (writeBack path text options.backupSuffix >>= next) := by
  unfold Run.writeBack
  cases isSuffix : options.backupSuffix with
  | none => exact .write isFile rest
  | some suffix =>
      refine .backUp isFile isSuffix fun answer => ?_
      cases answer with
      | error error => exact rest _
      | ok backup => exact .log (.write isFile rest)

/-- Repairing a file is handling it. -/
theorem handles_repairFile (options : RunOptions) (tree : FileTree) (path : Path) :
    Handles options tree path (repairFile options path) := by
  refine .read (fun error => .logAll ?_ _) fun isFile text => .repairLogged (.logAll ?_ _)
  · exact .pure rfl
  · generalize repair options.metaDefaults path text = result
    have about (answer : Except FileError Unit) :
        ((Report.repaired path result).afterWriting answer).path = path := by
      cases answer <;> rfl
    refine .logAll_if ?_ _ _
    split
    · exact .pure rfl
    · refine .writeBack isFile fun answer => ?_
      cases answer with
      | error error => exact .logAll (.pure (about (.error error))) _
      | ok => exact .pure (about (.ok ()))

/-! ## Answers -/

end Run

namespace World

variable {world : World} {path : Path}

theorem answer_backUp_error {suffix : Text} {error : FileError}
    (failed : world.tree.backUpDocument path suffix = .error error) :
    world.answer (.backUp path suffix) = (.error error, world) := by
  rw [answer, failed]

theorem answer_backUp_ok {suffix : Text} {tree : FileTree} {backup : Path}
    (saved : world.tree.backUpDocument path suffix = .ok (tree, backup)) :
    world.answer (.backUp path suffix) = (.ok backup, { world with tree }) := by
  rw [answer, saved]

theorem answer_write {text : Text} {tree : FileTree}
    (written : world.tree.writeDocument path text = (tree, none)) :
    world.answer (.write path text) = (.ok (), { world with tree }) := by
  rw [answer, written]

end World

namespace Run

variable {options : RunOptions} {tree : FileTree} {path : Path}

/-! ## Changes -/

/-- What may happen to the tree while a file is handled: only what the file owns changes, and what
was not there may become its backup. -/
structure Changes (options : RunOptions) (tree : FileTree) (path : Path) (before after : FileTree) :
    Prop where
  elsewhere : ∀ location, ¬ Owns options tree path location →
    after.get? location = before.get? location
  grows : Grows (IsTarget options tree path) before after

theorem Changes.refl (options : RunOptions) (tree : FileTree) (path : Path) (before : FileTree) :
    Changes options tree path before before :=
  ⟨fun _ _ => rfl, .refl _ _⟩

/-- A new content for the file or its backup. -/
theorem changes_set {before : FileTree} {location : Location}
    (owns : Owns options tree path location) (other : before.get? location ≠ some .directory)
    (allowed : IsTarget options tree path location ∨ before.kind? location = some false)
    (content : ByteArray) :
    Changes options tree path before (before.set location (.file content)) where
  elsewhere place notOwn := by
    rw [FileTree.get?_set (FileTree.not_isAncestor_of_get? other), if_neg]
    rintro rfl
    exact notOwn owns
  grows := FileTree.grows_set other allowed content

/-- Two trees that look the same to the handling of a file: they agree on what the file owns and have
the same kinds of things on the way of its backup. -/
structure Alike (options : RunOptions) (tree : FileTree) (path : Path) (shared alone : FileTree) :
    Prop where
  directories : SameDirectories tree shared
  grows : Grows (IsTarget options tree path) tree alone
  agrees : ∀ location, Owns options tree path location →
    shared.get? location = alone.get? location
  kinds : IsFile tree path → ∀ suffix, options.backupSuffix = some suffix →
    ∀ place ∈ way (path.backup suffix), shared.kind? place = alone.kind? place

/-- What the answer to a request is for two worlds whose trees look the same. -/
structure AnswersAlike (options : RunOptions) (tree : FileTree) (path : Path) (request : Request)
    (next : request.Answer → Action Report) (shared alone : World) : Prop where
  answer : (shared.answer request).1 = (alone.answer request).1
  handles : Handles options tree path (next (alone.answer request).1)
  changes : Changes options tree path shared.tree (shared.answer request).2.tree
  changesAlone : Changes options tree path alone.tree (alone.answer request).2.tree
  agrees : ∀ location, Owns options tree path location →
    (shared.answer request).2.tree.get? location = (alone.answer request).2.tree.get? location

theorem AnswersAlike.of_eq {request : Request} {next : request.Answer → Action Report}
    {shared alone sharedAfter aloneAfter : World} {answer : request.Answer}
    (answers : shared.answer request = (answer, sharedAfter))
    (answersAlone : alone.answer request = (answer, aloneAfter))
    (handles : Handles options tree path (next answer))
    (changes : Changes options tree path shared.tree sharedAfter.tree)
    (changesAlone : Changes options tree path alone.tree aloneAfter.tree)
    (agrees : ∀ location, Owns options tree path location →
      sharedAfter.tree.get? location = aloneAfter.tree.get? location) :
    AnswersAlike options tree path request next shared alone := by
  refine ⟨?_, ?_, ?_, ?_, ?_⟩
  · rw [answers, answersAlone]
  · rwa [answersAlone]
  · rwa [answers]
  · rwa [answersAlone]
  · rwa [answers, answersAlone]

section

variable {shared alone : World} (alike : Alike options tree path shared.tree alone.tree)
include alike

/-- The file itself, in both trees. -/
theorem Alike.file {location : Location} (writes : tree.writable path = .ok location)
    (isFile : tree.kind? location = some false) :
    ∃ content, alone.tree.get? location = some (.file content) ∧
      shared.tree.get? location = some (.file content) := by
  obtain ⟨content, found⟩ := FileTree.kind?_eq_false_iff.mp (alike.grows.kind?_eq_false isFile)
  exact ⟨content, found, (alike.agrees location (.inl writes)).trans found⟩

theorem Alike.read : shared.tree.readDocument path = alone.tree.readDocument path := by
  refine FileTree.readDocument_congr (alike.grows.sameDirectories.symm.trans alike.directories)
    fun location writes => alike.agrees location (.inl ?_)
  exact alike.grows.sameDirectories.symm.writable writes

/-- What can be read is a file. -/
theorem Alike.isFile {text : Text} (reads : alone.tree.readDocument path = .ok text) :
    IsFile tree path := by
  obtain ⟨location, content, writes, found, _⟩ := FileTree.readDocument_eq_ok_iff.mp reads
  have isFile : alone.tree.kind? location = some false :=
    FileTree.kind?_eq_false_iff.mpr ⟨content, found⟩
  rcases alike.grows location with same | ⟨isTarget, _⟩
  · exact ⟨location, alike.grows.sameDirectories.symm.writable writes, same ▸ isFile⟩
  · exact isTarget.1

/-- New contents in a place that the file owns. -/
theorem Alike.agrees_set {place : Location}
    (otherShared : shared.tree.get? place ≠ some .directory)
    (otherAlone : alone.tree.get? place ≠ some .directory) (node : Node) (location : Location)
    (owns : Owns options tree path location) :
    (shared.tree.set place node).get? location = (alone.tree.set place node).get? location := by
  rw [FileTree.get?_set (FileTree.not_isAncestor_of_get? otherShared),
    FileTree.get?_set (FileTree.not_isAncestor_of_get? otherAlone), alike.agrees location owns]

end

/-- **The share of a file.** While a file is handled, a request has the same answer in every tree that
looks the same to it, and it changes only what the file owns. -/
theorem Handles.answer {request : Request} {next : request.Answer → Action Report}
    (handles : Handles options tree path (.ask request next)) {shared alone : World}
    (alike : Alike options tree path shared.tree alone.tree) :
    AnswersAlike options tree path request next shared alone := by
  cases handles with
  | log rest => exact ⟨rfl, rest, .refl _ _ _ _, .refl _ _ _ _, alike.agrees⟩
  | @read next failed succeeded =>
      refine ⟨alike.read, ?_, .refl _ _ _ _, .refl _ _ _ _, alike.agrees⟩
      change Handles options tree path (next (alone.tree.readDocument path))
      cases reads : alone.tree.readDocument path with
      | error error => exact failed error
      | ok text => exact succeeded (alike.isFile reads) text
  | @backUp suffix next isFile isSuffix rest =>
      have copiesShared := FileTree.writable_congr (alike.kinds isFile suffix isSuffix)
      have ⟨location, writes, kind⟩ := isFile
      obtain ⟨content, foundAlone, foundShared⟩ := alike.file writes kind
      have backsShared := FileTree.backUpDocument_of_file (alike.directories.writable writes)
        foundShared suffix
      have backsAlone := FileTree.backUpDocument_of_file
        (alike.grows.sameDirectories.writable writes) foundAlone suffix
      rw [copiesShared] at backsShared
      cases copies : alone.tree.writable (path.backup suffix) with
      | error error =>
          rw [copies] at backsShared backsAlone
          have answerShared := World.answer_backUp_error backsShared
          have answerAlone := World.answer_backUp_error backsAlone
          exact .of_eq answerShared answerAlone (rest _) (.refl _ _ _ _) (.refl _ _ _ _) alike.agrees
      | ok target =>
          rw [copies] at backsShared backsAlone copiesShared
          have isTarget : IsTarget options tree path target :=
            ⟨isFile, suffix, isSuffix, alike.grows.sameDirectories.symm.writable copies⟩
          have otherShared := FileTree.other_of_writable copiesShared
          have otherAlone := FileTree.other_of_writable copies
          have answerShared := World.answer_backUp_ok backsShared
          have answerAlone := World.answer_backUp_ok backsAlone
          exact .of_eq answerShared answerAlone (rest _)
            (changes_set (.inr isTarget) otherShared (.inl isTarget) _)
            (changes_set (.inr isTarget) otherAlone (.inl isTarget) _)
            (alike.agrees_set otherShared otherAlone _)
  | @write text next isFile rest =>
      obtain ⟨location, writes, kind⟩ := isFile
      obtain ⟨content, foundAlone, foundShared⟩ := alike.file writes kind
      have answerShared := World.answer_write
        (FileTree.writeDocument_of_writable (alike.directories.writable writes) text)
      have answerAlone := World.answer_write
        (FileTree.writeDocument_of_writable (alike.grows.sameDirectories.writable writes) text)
      have otherShared := FileTree.other_of_writable (alike.directories.writable writes)
      have otherAlone :=
        FileTree.other_of_writable (alike.grows.sameDirectories.writable writes)
      exact .of_eq answerShared answerAlone (rest _)
        (changes_set (.inl writes) otherShared
          (.inr (FileTree.kind?_eq_false_iff.mpr ⟨content, foundShared⟩)) _)
        (changes_set (.inl writes) otherAlone
          (.inr (FileTree.kind?_eq_false_iff.mpr ⟨content, foundAlone⟩)) _)
        (alike.agrees_set otherShared otherAlone _)

end Run

end PlaybookRepair
