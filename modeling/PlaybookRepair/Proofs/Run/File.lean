import PlaybookRepair.Proofs.FileTree.Document
import PlaybookRepair.Run
import PlaybookRepair.World

/-!
# A run on one file

Apart from the log, what a run does with a file is a function of the tree (`Run.processed`). The
report on the file accounts for the change of the tree (`Report.Accounts`): nothing changes that is
not reported as written, what is written is the repaired text, and the backup has the old content. The
exception is a file that is its own backup, which is emptied before it is overwritten
(`run_accounts_itself`).
-/

namespace PlaybookRepair

namespace Action

variable {α β : Type}

/-- An action that goes on from the result of another one is carried out after it. -/
theorem carryOut_bind (action : Action α) (next : α → Action β) (world : World) :
    (action >>= next).carryOut world =
      (next (action.carryOut world).1).carryOut (action.carryOut world).2 := by
  induction action generalizing world with
  | done result => rfl
  | ask request rest ih => exact ih _ _

/-- An action that cannot fail has its result among steps that can. -/
theorem carryOut_lift {ε : Type} (action : Action α) (world : World) :
    (ExceptT.lift action : ExceptT ε Action α).run.carryOut world =
      (.ok (action.carryOut world).1, (action.carryOut world).2) := by
  change (action >>= fun result => pure (Except.ok result)).carryOut world = _
  rw [carryOut_bind]
  rfl

/-- A step that goes on from the result of another one is carried out after it. -/
theorem carryOut_bind_of_ok {ε : Type} {step : ExceptT ε Action α} {next : α → ExceptT ε Action β}
    {world later : World} {result : α} (succeeds : step.run.carryOut world = (.ok result, later)) :
    (step >>= next).run.carryOut world = (next result).run.carryOut later := by
  rw [ExceptT.run_bind, carryOut_bind, succeeds]

theorem carryOut_logAll (entries : List LogEntry) (world : World) :
    (logAll entries).carryOut world = ((), { world with log := world.log ++ entries }) := by
  induction entries generalizing world with
  | nil => simp [logAll, carryOut]
  | cons entry rest ih =>
      change (logAll rest).carryOut { world with log := world.log ++ [entry] } = _
      rw [ih, List.append_assoc]
      rfl

end Action

namespace FileTree

/-- The tree after the backup that is taken before a file is overwritten, if there is to be one. -/
def saved (tree : FileTree) (path : Path) : Option Text → Except FileError FileTree
  | none => .ok tree
  | some suffix => (tree.backUpDocument path suffix).map Prod.fst

/-- The tree after a file has been overwritten, after a backup if there is to be one, and the error
that prevented it. -/
def overwritten (tree : FileTree) (path : Path) (text : Text) (backupSuffix : Option Text) :
    Except FileError Unit × FileTree :=
  match tree.saved path backupSuffix with
  | .error error => (.error error, tree)
  | .ok saved =>
    match saved.writeDocument path text with
    | (tree, none) => (.ok (), tree)
    | (tree, some error) => (.error error, tree)

end FileTree

namespace Run

variable {options : RunOptions} {path : Path} {world : World} {text : Text}

/-- What a run reports of one file and makes of the tree. -/
def processed (options : RunOptions) (path : Path) (tree : FileTree) : Report × FileTree :=
  match tree.readDocument path with
  | .error error => (.unread path error, tree)
  | .ok text =>
    let result := repair options.metaDefaults path text
    let report := Report.repaired path result
    if replaces options.policy result text then
      let (written, tree) := tree.overwritten path result.text options.backupSuffix
      (report.afterWriting written, tree)
    else (report, tree)

/-- The result of an action and the tree after it. -/
def onTree {α : Type} (action : Action α) (world : World) : α × FileTree :=
  ((action.carryOut world).1, (action.carryOut world).2.tree)

theorem onTree_writeBack (path : Path) (text : Text) (backupSuffix : Option Text) (world : World) :
    onTree (writeBack path text backupSuffix) world =
      world.tree.overwritten path text backupSuffix := by
  have write (tree : FileTree) (world : World) (same : world.tree = tree) :
      onTree (Action.request (.write path text)) world =
        match tree.writeDocument path text with
        | (tree, none) => (.ok (), tree)
        | (tree, some error) => (.error error, tree) := by
    subst same
    change ((world.answer _).1, (world.answer _).2.tree) = _
    rw [World.answer]
    rcases world.tree.writeDocument path text with ⟨_, _ | _⟩ <;> rfl
  unfold writeBack FileTree.overwritten
  cases backupSuffix with
  | none => exact write _ _ rfl
  | some suffix =>
      have asked : (Action.request (.backUp path suffix)).carryOut world =
          world.answer (.backUp path suffix) := rfl
      rw [onTree, Action.carryOut_bind, asked, World.answer, FileTree.saved]
      cases world.tree.backUpDocument path suffix with
      | error error => rfl
      | ok saved =>
          obtain ⟨saved, backup⟩ := saved
          dsimp only [Except.map]
          exact write saved _ rfl

theorem onTree_bind {α β : Type} (action : Action α) (next : α → Action β) (world : World) :
    onTree (action >>= next) world =
      onTree (next (action.carryOut world).1) (action.carryOut world).2 := by
  rw [onTree, onTree, Action.carryOut_bind]

/-- Log entries do not count. -/
theorem onTree_logAll {β : Type} (entries : List LogEntry) (next : Unit → Action β) (world : World) :
    onTree (Action.logAll entries >>= next) world =
      onTree (next ()) { world with log := world.log ++ entries } := by
  rw [onTree_bind, Action.carryOut_logAll]

theorem onTree_logAll_if {β : Type} (asked : Prop) [Decidable asked] (entries : List LogEntry)
    (next : Action β) (world : World) :
    onTree (if asked then Action.logAll entries >>= fun _ => next else next) world =
      onTree next { world with log := world.log ++ if asked then entries else [] } := by
  split
  · exact onTree_logAll entries _ world
  · rw [List.append_nil]

theorem carryOut_repairLogged (defaults : MetaDefaults) (path : Path) (text : Text) (world : World) :
    ∃ later, (repairLogged defaults path text).carryOut world = (repair defaults path text, later) ∧
      later.tree = world.tree := by
  unfold repairLogged
  dsimp only
  rw [Action.carryOut_bind, Action.carryOut_logAll]
  exact ⟨_, rfl, rfl⟩

/-- What a run does with one file, apart from the log. -/
theorem onTree_repairFile (options : RunOptions) (path : Path) (world : World) :
    onTree (repairFile options path) world = processed options path world.tree := by
  have reads : (Action.request (.read path)).carryOut world =
    (world.tree.readDocument path, world) := rfl
  unfold repairFile processed
  rw [onTree_bind, reads]
  cases world.tree.readDocument path with
  | error error => exact onTree_logAll _ _ world
  | ok text =>
      obtain ⟨later, repairs, sameTree⟩ :=
        carryOut_repairLogged options.metaDefaults path text world
      dsimp only
      rw [onTree_bind, repairs]
      generalize repair options.metaDefaults path text = result
      dsimp only
      rw [onTree_logAll, onTree_logAll_if]
      generalize isLast : World.mk _ _ _ _ _ = last
      have same : last.tree = world.tree := isLast ▸ sameTree
      rw [← same, ← onTree_writeBack]
      cases replaces options.policy result text with
      | false => rfl
      | true =>
          simp only [Bool.not_true, Bool.false_eq_true, ↓reduceIte]
          rw [onTree_bind]
          unfold onTree
          cases ((writeBack path result.text options.backupSuffix).carryOut last).1 with
          | error error =>
              dsimp only
              rw [Action.carryOut_bind, Action.carryOut_logAll]
              rfl
          | ok => rfl

end Run

/-! ## Overwriting -/

namespace FileTree

variable {tree saved : FileTree} {path : Path} {location : Location} {content : ByteArray}
  {backupSuffix : Option Text}

section

variable (writes : tree.writable path = .ok location)
  (isFile : tree.get? location = some (.file content))
include writes isFile

/-- A backup can be taken exactly if a file may be written at its path; it then has the content of
the file, unless it is the file. -/
theorem saved_eq_ok_iff :
    tree.saved path backupSuffix = .ok saved ↔
      backupSuffix = none ∧ saved = tree ∨
        ∃ suffix target, backupSuffix = some suffix ∧
          tree.writable (path.backup suffix) = .ok target ∧
          saved = tree.withBackup location target content := by
  cases backupSuffix with
  | none => simp [FileTree.saved, eq_comm]
  | some suffix =>
      rw [FileTree.saved, backUpDocument_of_file writes isFile]
      cases copies : tree.writable (path.backup suffix) with
      | error error => simp [Except.map, copies]
      | ok target => simp [Except.map, copies, eq_comm]

/-- The path of a backup leads to the file itself exactly if the backup would be written in the place
of the file. -/
theorem find_eq_find_iff {backup : Path} {target : Location}
    (copies : tree.writable backup = .ok target) :
    tree.find backup = tree.find path ↔ target = location := by
  have found := find_eq_file_iff.mpr ⟨writes, isFile⟩
  constructor
  · intro same
    have itself := (find_eq_file_iff.mp (same.trans found)).1
    exact Except.ok.inj (copies.symm.trans itself)
  · rintro rfl
    rw [found]
    exact find_eq_file_iff.mpr ⟨copies, isFile⟩

/-- A backup leaves the directories as they are. -/
theorem sameDirectories_saved (saves : tree.saved path backupSuffix = .ok saved) :
    SameDirectories tree saved := by
  obtain ⟨_, rfl⟩ | ⟨_, target, _, copies, rfl⟩ := (saved_eq_ok_iff writes isFile).mp saves
  · exact .refl _
  · exact sameDirectories_set (other_of_writable copies) _

/-- A file is overwritten exactly if its backup can be taken. -/
theorem overwritten_of_file (text : Text) :
    tree.overwritten path text backupSuffix =
      match tree.saved path backupSuffix with
      | .ok saved => (.ok (), saved.set location (.file (Text.encode text)))
      | .error error => (.error error, tree) := by
  unfold overwritten
  cases saves : tree.saved path backupSuffix with
  | error error => rfl
  | ok saved =>
      have stillWrites := (sameDirectories_saved writes isFile saves).writable writes
      dsimp only
      rw [writeDocument_of_writable stillWrites]

end

end FileTree

/-! ## What a report says -/

open Run in
/-- What the report on a file says of the tree before and after the run. -/
structure Report.Accounts (options : RunOptions) (path : Path) (report : Report)
    (before after : FileTree) : Prop where
  about : report.path = path
  /-- A file is overwritten exactly if its text is replaced and its backup, if there is to be one, can
  be taken. -/
  written : report.written ↔ ∃ text, before.readDocument path = .ok text ∧
    replaces options.policy (repair options.metaDefaults path text) text ∧
      ∀ suffix, options.backupSuffix = some suffix →
        ∃ target, before.writable (path.backup suffix) = .ok target
  status : report.written →
    report.status = .fixed ∨ report.status = .failed ∧ options.policy = .bestEffort
  /-- A tree in which nothing is reported as written stays as it is. -/
  unwritten : ¬ report.written → after = before
  dryRun : options.policy = .dryRun → after = before
  /-- The new content is the repaired text. -/
  content : report.written → ∃ text, before.readDocument path = .ok text ∧
    after.contentAt path = .ok (Text.encode (repair options.metaDefaults path text).text)
  /-- The backup has the old content exactly if it is not the file itself. -/
  backup : report.written → ∀ suffix, options.backupSuffix = some suffix →
    (after.contentAt (path.backup suffix) = before.contentAt path ↔
      before.find (path.backup suffix) ≠ before.find path)
  unread : ∀ error, before.readDocument path = .error error →
    report.status = .ioError ∧ ¬ report.written
  unsaved : ∀ text suffix error, before.readDocument path = .ok text →
    replaces options.policy (repair options.metaDefaults path text) text →
      options.backupSuffix = some suffix → before.backUpDocument path suffix = .error error →
        report.status = .ioError ∧ ¬ report.written
  /-- Nothing changes but the file and its backup. -/
  elsewhere : ∀ location, after.get? location ≠ before.get? location →
    before.writable path = .ok location ∨
      ∃ suffix, options.backupSuffix = some suffix ∧
        before.writable (path.backup suffix) = .ok location

namespace Run

variable {options : RunOptions} {path : Path} {before : FileTree} {text : Text}

/-- Nothing changes where nothing is to be written. -/
theorem accounts_unwritten {report : Report} (about : report.path = path)
    (unwritten : report.written = false)
    (notReplaced : ¬ ∃ text, before.readDocument path = .ok text ∧
      replaces options.policy (repair options.metaDefaults path text) text ∧
        ∀ suffix, options.backupSuffix = some suffix →
          ∃ target, before.writable (path.backup suffix) = .ok target)
    (unread : ∀ error, before.readDocument path = .error error → report.status = .ioError)
    (unsaved : ∀ text, before.readDocument path = .ok text →
      replaces options.policy (repair options.metaDefaults path text) text →
        report.status = .ioError) :
    report.Accounts options path before before := by
  have notWritten : ¬ report.written := by rw [unwritten]; decide
  exact {
    about
    written := ⟨fun written => (notWritten written).elim, fun replaced => (notReplaced replaced).elim⟩
    status := fun written => (notWritten written).elim
    unwritten := fun _ => rfl
    dryRun := fun _ => rfl
    content := fun written => (notWritten written).elim
    backup := fun written => (notWritten written).elim
    unread := fun error reads => ⟨unread error reads, notWritten⟩
    unsaved := fun text _ _ reads replaced _ _ => ⟨unsaved text reads replaced, notWritten⟩
    elsewhere := fun _ differs => (differs rfl).elim }

section

variable {location : Location} {content : ByteArray} {saved : FileTree}
  (writes : before.writable path = .ok location)
  (isFile : before.get? location = some (.file content))
  (decodes : Text.decode? content = some text)
include writes isFile

/-- What has been read. -/
theorem reads_of_file (decodes : Text.decode? content = some text) :
    before.readDocument path = .ok text :=
  FileTree.readDocument_eq_ok_iff.mpr ⟨location, content, writes, isFile, decodes⟩

/-- The overwritten file and its backup. -/
theorem accounts_written (decodes : Text.decode? content = some text)
    (replaced : replaces options.policy (repair options.metaDefaults path text) text)
    (saves : before.saved path options.backupSuffix = .ok saved) :
    ({ Report.repaired path (repair options.metaDefaults path text) with written := true } :
      Report).Accounts options path before
        (saved.set location
          (.file (Text.encode (repair options.metaDefaults path text).text))) := by
  have reads := reads_of_file writes isFile decodes
  have saves' := (FileTree.saved_eq_ok_iff writes isFile).mp saves
  have sameSaved := FileTree.sameDirectories_saved writes isFile saves
  generalize repaired : repair options.metaDefaults path text = result at replaced
  have other : saved.get? location ≠ some .directory := by
    rw [ne_eq, sameSaved location, isFile]
    nofun
  have same : before.SameDirectories (saved.set location (.file (Text.encode result.text))) :=
    sameSaved.trans (FileTree.sameDirectories_set other _)
  have after (place : Location) :
      (saved.set location (.file (Text.encode result.text))).get? place =
        if place = location then some (.file (Text.encode result.text)) else saved.get? place :=
    FileTree.get?_set (FileTree.not_isAncestor_of_get? other) _ _
  generalize saved.set location (.file (Text.encode result.text)) = last at same after
  obtain ⟨writesStatus, differs⟩ : options.policy.writes result.status ∧ result.text ≠ text := by
    simpa [replaces] using replaced
  have oldContent := FileTree.contentAt_eq_ok_iff.mpr ⟨location, writes, isFile⟩
  have newContent : last.contentAt path = .ok (Text.encode result.text) :=
    FileTree.contentAt_eq_ok_iff.mpr
      ⟨location, same.writable writes, (after location).trans (if_pos rfl)⟩
  exact {
    about := rfl
    written := by
      refine ⟨fun _ => ⟨text, reads, by rwa [repaired], fun suffix isSuffix => ?_⟩, fun _ => rfl⟩
      obtain ⟨none, _⟩ | ⟨other, target, isOther, copies, _⟩ := saves'
      · rw [none] at isSuffix
        cases isSuffix
      · cases isSuffix.symm.trans isOther
        exact ⟨target, copies⟩
    status := fun _ => by
      change FileStatus.ofRepair result.status = _ ∨ FileStatus.ofRepair result.status = _ ∧ _
      cases policy : options.policy <;> cases status : result.status <;>
        simp_all [WritePolicy.writes, FileStatus.ofRepair]
    unwritten := fun notWritten => (notWritten rfl).elim
    dryRun := fun dry => by
      rw [dry] at writesStatus
      cases writesStatus
    content := fun _ => ⟨text, reads, by rw [repaired, newContent]⟩
    backup := fun _ suffix isSuffix => by
      obtain ⟨none, _⟩ | ⟨other, target, isOther, copies, rfl⟩ := saves'
      · rw [none] at isSuffix
        cases isSuffix
      · cases isSuffix.symm.trans isOther
        have stillCopies := same.writable copies
        rw [ne_eq, FileTree.find_eq_find_iff writes isFile copies, oldContent]
        by_cases itself : target = location
        · have lost : last.contentAt (path.backup suffix) = .ok (Text.encode result.text) :=
            FileTree.contentAt_eq_ok_iff.mpr
              ⟨target, stillCopies, (after target).trans (if_pos itself)⟩
          rw [lost]
          refine iff_of_false (fun kept => ?_) (not_not_intro itself)
          rw [← Except.ok.inj kept, Text.decode?_encode] at decodes
          exact differs (Option.some.inj decodes)
        · have kept : last.get? target = some (.file content) := by
            rw [after, if_neg itself, FileTree.get?_withBackup copies, if_pos rfl, if_neg itself]
          exact iff_of_true (FileTree.contentAt_eq_ok_iff.mpr ⟨target, stillCopies, kept⟩) itself
    unread := fun error failed => by
      rw [reads] at failed
      cases failed
    unsaved := fun _ suffix error _ _ isSuffix failed => by
      rw [isSuffix, FileTree.saved, failed] at saves
      cases saves
    elsewhere := fun place changed => by
      by_cases isFilePlace : place = location
      · rw [isFilePlace]
        exact .inl writes
      · rw [after, if_neg isFilePlace] at changed
        obtain ⟨_, rfl⟩ | ⟨suffix, target, isSuffix, copies, rfl⟩ := saves'
        · exact (changed rfl).elim
        · rw [FileTree.get?_withBackup copies] at changed
          obtain rfl : place = target := Decidable.by_contra fun apart => changed (if_neg apart)
          exact .inr ⟨suffix, isSuffix, copies⟩ }

end

/-- What a run reports of one file accounts for what it makes of the tree. -/
theorem processed_accounts (options : RunOptions) (path : Path) (before : FileTree) :
    (processed options path before).1.Accounts options path before
      (processed options path before).2 := by
  unfold processed
  cases reads : before.readDocument path with
  | error error =>
      refine accounts_unwritten rfl rfl ?_ (fun _ _ => rfl) fun text isText => ?_
      · rintro ⟨text, isText, _⟩
        rw [reads] at isText
        cases isText
      · rw [reads] at isText
        cases isText
  | ok text =>
      obtain ⟨location, content, writes, isFile, decodes⟩ :=
        FileTree.readDocument_eq_ok_iff.mp reads
      have noError (error : FileError) (failed : before.readDocument path = .error error) : False := by
        rw [reads] at failed
        cases failed
      have isText {other : Text} (found : before.readDocument path = .ok other) : other = text :=
        Except.ok.inj (found.symm.trans reads)
      dsimp only
      split
      · next replaced =>
        rw [FileTree.overwritten_of_file writes isFile]
        cases saves : before.saved path options.backupSuffix with
        | ok saved => exact accounts_written writes isFile decodes replaced saves
        | error error =>
            refine accounts_unwritten rfl rfl ?_ (fun _ failed => (noError _ failed).elim)
              fun _ _ _ => rfl
            rintro ⟨_, _, _, targets⟩
            have saved : ∃ saved, before.saved path options.backupSuffix = .ok saved := by
              cases isSuffix : options.backupSuffix with
              | none => exact ⟨before, rfl⟩
              | some suffix =>
                  obtain ⟨target, copies⟩ := targets suffix isSuffix
                  exact ⟨_, (FileTree.saved_eq_ok_iff writes isFile).mpr
                    (.inr ⟨suffix, target, rfl, copies, rfl⟩)⟩
            obtain ⟨saved, isSaved⟩ := saved
            rw [saves] at isSaved
            cases isSaved
      · next notReplaced =>
        refine accounts_unwritten rfl rfl ?_ (fun _ failed => (noError _ failed).elim) ?_
        · rintro ⟨other, found, replaced, _⟩
          rw [isText found] at replaced
          exact notReplaced replaced
        · intro other found replaced
          rw [isText found] at replaced
          exact (notReplaced replaced).elim

/-- The report on a file is about its path. -/
theorem path_repairFile (options : RunOptions) (path : Path) (world : World) :
    ((repairFile options path).carryOut world).1.path = path := by
  have about := (processed_accounts options path world.tree).about
  rw [← onTree_repairFile] at about
  exact about

/-- Files are repaired in the order of the list. -/
theorem carryOut_repairFiles_cons (options : RunOptions) (path : Path) (rest : List Path)
    (world : World) :
    (repairFiles options (path :: rest)).carryOut world =
      let first := (repairFile options path).carryOut world
      let later := (repairFiles options rest).carryOut first.2
      ((Outcome.push {} first.1).merge later.1, later.2) := by
  rw [repairFiles, Action.carryOut_bind, Action.carryOut_bind]
  rfl

/-- A run repairs its files, and what it says after that is only logged. -/
theorem carryOut_run (options : RunOptions) (paths : List Path) (world : World) :
    ((run options paths).carryOut world).1 =
        ((repairFiles options paths).carryOut world).1.sorted ∧
      ((run options paths).carryOut world).2.tree =
        ((repairFiles options paths).carryOut world).2.tree := by
  rw [run, Action.carryOut_bind]
  exact ⟨rfl, rfl⟩

end Run

/-- **A run on one file.** The report on the file accounts for the tree after the run: what changes
is reported as written, is the repaired text, and is backed up unless the backup is the file itself. -/
theorem run_accounts (options : RunOptions) (path : Path) (world : World) :
    ∃ report, ((run options [path]).carryOut world).1 = Outcome.push {} report ∧
      report.Accounts options path world.tree ((run options [path]).carryOut world).2.tree := by
  have processed := Run.processed_accounts options path world.tree
  rw [← Run.onTree_repairFile] at processed
  have alone (report : Report) : ((Outcome.push {} report).merge {}).sorted = Outcome.push {} report := by
    simp [Outcome.push, Outcome.merge, Outcome.sorted, Summary.merge]
  obtain ⟨outcome, tree⟩ := Run.carryOut_run options [path] world
  rw [Run.carryOut_repairFiles_cons] at outcome tree
  refine ⟨((Run.repairFile options path).carryOut world).1, ?_, ?_⟩
  · rw [outcome]
    exact alone _
  · rw [tree]
    exact processed

/-- A file whose backup is the file itself is written, and its old content is lost. -/
theorem run_accounts_itself :
    let path := "tasks/a.yml".toList
    let old := "- name: a\n  shell: echo hi\n  dnf install foo\n".toList
    let world : World := { tree := ⟨[(["tasks".toList], .directory),
      (["tasks".toList, "a.yml".toList], .file (Text.encode old))]⟩ }
    let ran := (run { backupSuffix := some [] } [path]).carryOut world
    ran.1.reports.map (·.written) = [true] ∧ world.tree.readDocument path = .ok old ∧
      ran.2.tree.contentAt (Path.backup path []) ≠ world.tree.contentAt path := by
  decide +kernel

end PlaybookRepair
