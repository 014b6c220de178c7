import PlaybookRepair.Proofs.FileTree.Survey
import PlaybookRepair.Proofs.Run.File

/-!
# Scans after a run

A run gains the tree a file for each backup that is taken where nothing was (`repairFiles_gains`), and
nothing else. A scan after the run finds what it found before, exactly if none of these backups is a
document under the root (`scan_run_iff`). That is so if the backups have a suffix that does not end
with the extension of a document; the names of backup copies that a scan leaves out play no part.
-/

namespace PlaybookRepair

namespace Run

open FileTree (Gains)

variable {options : RunOptions} {path : Path} {before : FileTree} {world : World}

/-- Whether a report is on an overwritten file whose backup has its place at a location where nothing
is. -/
def BacksUpTo (options : RunOptions) (tree : FileTree) (report : Report) (location : Location) : Prop :=
  report.written ∧ ∃ suffix, options.backupSuffix = some suffix ∧
    tree.writable (Path.backup report.path suffix) = .ok location ∧ tree.get? location = none

/-- Files that a tree has gained in a run: the backups that stand where nothing was. A file that is
its own backup gains the tree nothing. -/
structure Backups (options : RunOptions) (tree : FileTree) (reports : List Report)
    (added : List Location) : Prop where
  mem_iff : ∀ location, location ∈ added ↔ ∃ report ∈ reports, BacksUpTo options tree report location
  itself : options.backupSuffix = some [] → added = []

theorem backups_nil {report : Report} (unwritten : report.written = false) :
    Backups options before [report] [] where
  mem_iff location := by
    refine iff_of_false List.not_mem_nil ?_
    rintro ⟨other, member, written, -⟩
    rw [List.mem_singleton.mp member, unwritten] at written
    cases written
  itself _ := rfl

/-- A file that is overwritten gains the tree nothing. -/
theorem gains_overwrite {tree : FileTree} {location : Location} (distinct : tree.IsDistinct)
    (present : tree.get? location ≠ none) (other : tree.get? location ≠ some .directory)
    (content : ByteArray) : Gains tree (tree.set location (.file content)) [] := by
  have gains := FileTree.gains_set distinct other content
  rwa [if_neg present] at gains

/-- What a tree gains by the work on one file. -/
theorem processed_gains (options : RunOptions) (path : Path) {tree : FileTree}
    (distinct : tree.IsDistinct) :
    ∃ added, Gains tree (processed options path tree).2 added ∧
      Backups options tree [(processed options path tree).1] added := by
  unfold processed
  cases reads : tree.readDocument path with
  | error error => exact ⟨[], .refl distinct, backups_nil rfl⟩
  | ok text =>
    dsimp only
    split
    · obtain ⟨location, content, writes, isFile, -⟩ := FileTree.readDocument_eq_ok_iff.mp reads
      rw [FileTree.overwritten_of_file writes isFile]
      cases saves : tree.saved path options.backupSuffix with
      | error error => exact ⟨[], .refl distinct, backups_nil rfl⟩
      | ok saved =>
        have present : tree.get? location ≠ none := by simp [isFile]
        have other : tree.get? location ≠ some .directory := by simp [isFile]
        obtain ⟨noSuffix, rfl⟩ | ⟨suffix, target, isSuffix, copies, rfl⟩ :=
          (FileTree.saved_eq_ok_iff writes isFile).mp saves
        · refine ⟨[], gains_overwrite distinct present other _, ?_, fun _ => rfl⟩
          refine fun _ => iff_of_false List.not_mem_nil ?_
          rintro ⟨report, -, -, suffix, isSuffix, -⟩
          rw [noSuffix] at isSuffix
          cases isSuffix
        · have backsUp := FileTree.gains_set distinct (FileTree.other_of_writable copies)
            (if target = location then .empty else content)
          have stays : (tree.withBackup location target content).get? location ≠ none :=
            fun none => present ((backsUp.empty location).mp none).1
          have staysFile : (tree.withBackup location target content).get? location ≠ some .directory :=
            mt (backsUp.same location).mp other
          have overwrites := gains_overwrite backsUp.distinct stays staysFile
            (Text.encode (repair options.metaDefaults path text).text)
          have gains := backsUp.trans overwrites
          rw [List.append_nil] at gains
          refine ⟨_, gains, fun place => ?_, fun noName => ?_⟩
          · constructor
            · intro member
              split_ifs at member with none
              · obtain rfl := List.mem_singleton.mp member
                exact ⟨_, List.mem_singleton.mpr rfl, rfl, suffix, isSuffix, copies, none⟩
              · cases member
            · rintro ⟨report, member, -, suffix', isSuffix', copies', none⟩
              obtain rfl := List.mem_singleton.mp member
              obtain rfl : suffix = suffix' := Option.some.inj (isSuffix.symm.trans isSuffix')
              obtain rfl : target = place := Except.ok.inj (copies.symm.trans copies')
              rw [if_pos none]
              exact List.mem_singleton.mpr rfl
          · obtain rfl : suffix = [] := Option.some.inj (isSuffix.symm.trans noName)
            have own : tree.writable path = .ok target := by
              rw [← copies, Path.backup, List.append_nil]
            obtain rfl : location = target := Except.ok.inj (writes.symm.trans own)
            exact if_neg present
    · exact ⟨[], .refl distinct, backups_nil rfl⟩

theorem BacksUpTo.of_gains {tree later : FileTree} {added : List Location} {report : Report}
    {location : Location} (gains : Gains tree later added) :
    BacksUpTo options later report location ↔
      BacksUpTo options tree report location ∧ location ∉ added := by
  unfold BacksUpTo
  constructor
  · rintro ⟨written, suffix, isSuffix, copies, none⟩
    obtain ⟨none, notAdded⟩ := (gains.empty location).mp none
    exact ⟨⟨written, suffix, isSuffix, gains.same.symm.writable copies, none⟩, notAdded⟩
  · rintro ⟨⟨written, suffix, isSuffix, copies, none⟩, notAdded⟩
    exact ⟨written, suffix, isSuffix, gains.same.writable copies,
      (gains.empty location).mpr ⟨none, notAdded⟩⟩

/-- **Gained files.** A run gains the tree the backups that stand where nothing was. -/
theorem repairFiles_gains (options : RunOptions) (paths : List Path) :
    ∀ world : World, world.tree.IsDistinct →
      ∃ added, Gains world.tree ((repairFiles options paths).carryOut world).2.tree added ∧
        Backups options world.tree ((repairFiles options paths).carryOut world).1.reports added := by
  induction paths with
  | nil =>
    intro world distinct
    refine ⟨[], .refl distinct, fun _ => iff_of_false List.not_mem_nil ?_, fun _ => rfl⟩
    rintro ⟨report, member, -⟩
    cases member
  | cons path paths ih =>
    intro world distinct
    have first : onTree (repairFile options path) world = processed options path world.tree :=
      onTree_repairFile options path world
    obtain ⟨own, gains, backups⟩ := processed_gains options path distinct
    rw [← first] at gains backups
    obtain ⟨more, later, backups'⟩ := ih ((repairFile options path).carryOut world).2 gains.distinct
    rw [carryOut_repairFiles_cons]
    refine ⟨own ++ more, gains.trans later, fun location => ?_, fun noName => ?_⟩
    · rw [List.mem_append, backups.mem_iff, backups'.mem_iff]
      constructor
      · rintro (⟨report, member, backsUp⟩ | ⟨report, member, backsUp⟩)
        · exact ⟨report, List.mem_append_left _ member, backsUp⟩
        · exact ⟨report, List.mem_append_right _ member, ((BacksUpTo.of_gains gains).mp backsUp).1⟩
      · rintro ⟨report, member, backsUp⟩
        obtain member | member := List.mem_append.mp member
        · exact .inl ⟨report, member, backsUp⟩
        · by_cases isOwn : location ∈ own
          · exact .inl ((backups.mem_iff location).mp isOwn)
          · exact .inr ⟨report, member, (BacksUpTo.of_gains gains).mpr ⟨backsUp, isOwn⟩⟩
    · rw [backups.itself noName, backups'.itself noName]
      rfl

theorem map_path_repairFiles (options : RunOptions) (paths : List Path) :
    ∀ world : World,
      ((repairFiles options paths).carryOut world).1.reports.map Report.path = paths := by
  induction paths with
  | nil =>
    intro world
    rfl
  | cons path paths ih =>
    intro world
    rw [carryOut_repairFiles_cons]
    change Report.path _ :: List.map Report.path _ = path :: paths
    rw [path_repairFile]
    exact congrArg (path :: ·) (ih _)

end Run

open Run in
/-- **A scan after a run.** A run changes what a scan finds exactly if it takes a backup where nothing
was and a document under the root can be. It takes no such backup if the suffix of backups does not
end with the extension of a document. -/
theorem scan_run_iff {options : RunOptions} {world : World} {root : Path} {paths : List Path}
    (distinct : world.tree.IsDistinct) (scans : world.tree.scan root = .ok paths) :
    let ran := (run options paths).carryOut world
    (∃ found, ran.2.tree.scan root = .ok found ∧ paths ⊆ found) ∧
    (ran.2.tree.scan root = .ok paths ↔ ∀ report ∈ ran.1.reports, ∀ location,
      BacksUpTo options world.tree report location → ¬ world.tree.Lists root location) ∧
    ((∀ location ∈ world.tree.files, ∀ name ∈ location, '/' ∉ name) →
      (∀ suffix, options.backupSuffix = some suffix → ¬ Path.HasExtension suffix) →
        ran.2.tree.scan root = .ok paths) := by
  intro ran
  obtain ⟨outcome, tree⟩ := carryOut_run options paths world
  obtain ⟨added, gains, backups⟩ := repairFiles_gains options paths world distinct
  rw [← tree] at gains
  obtain ⟨found, scans', kept, same⟩ := gains.scan_eq scans
  have mem_reports (report : Report) : report ∈ ran.1.reports ↔
      report ∈ ((repairFiles options paths).carryOut world).1.reports := by
    rw [show ran.1 = _ from outcome]
    exact List.mem_mergeSort
  have unchanged : ran.2.tree.scan root = .ok paths ↔
      ∀ location ∈ added, ¬ world.tree.Lists root location := by
    rw [← same, show ran.2.tree.scan root = _ from scans', Except.ok.injEq]
  refine ⟨⟨found, scans', kept⟩, ?_, fun names suffixes => ?_⟩
  · rw [unchanged]
    constructor
    · intro unlisted report member location backsUp
      exact unlisted location
        ((backups.mem_iff location).mpr ⟨report, (mem_reports report).mp member, backsUp⟩)
    · intro unlisted location member
      obtain ⟨report, isReport, backsUp⟩ := (backups.mem_iff location).mp member
      exact unlisted report ((mem_reports report).mpr isReport) location backsUp
  · refine unchanged.mpr fun location member listed => ?_
    obtain ⟨report, isReport, -, suffix, isSuffix, copies, -⟩ := (backups.mem_iff location).mp member
    have notNil : suffix ≠ [] := by
      rintro rfl
      rw [backups.itself isSuffix] at member
      cases member
    have isPath : report.path ∈ paths := by
      rw [← map_path_repairFiles options paths world]
      exact List.mem_map_of_mem isReport
    exact suffixes suffix isSuffix (Path.hasExtension_suffix
      (FileTree.hasExtension_of_scan names scans isPath) notNil (listed.hasExtension copies))

/-- A directory with a list of tasks that is repaired. -/
def damagedSite : FileTree where
  nodes := [(["site".toList], .directory), (["site".toList, "a.yml".toList],
    .file (Text.encode "- name: a\n  shell: echo hi\n  dnf install foo\n".toList))]

/-- Backups with a name of backup copies are not found. -/
theorem scan_run_iff_bak :
    let world : World := { tree := damagedSite }
    let paths := ["site/a.yml".toList]
    let ran := (run { backupSuffix := some ".bak".toList } paths).carryOut world
    world.tree.scan "site".toList = .ok paths ∧ ran.1.reports.map (·.written) = [true] ∧
      ran.2.tree.scan "site".toList = .ok paths := by
  intro world paths ran
  have scans : world.tree.scan "site".toList = .ok paths := by decide +kernel
  have distinct : world.tree.IsDistinct := by decide +kernel
  refine ⟨scans, by decide +kernel, ?_⟩
  refine (scan_run_iff distinct scans).2.2 (by decide +kernel) fun suffix isSuffix => ?_
  obtain rfl : ".bak".toList = suffix := Option.some.inj isSuffix
  decide

/-- A backup with the extension of a document is found as one. -/
theorem scan_run_takes_backup :
    let world : World := { tree := damagedSite }
    let paths := ["site/a.yml".toList]
    let ran := (run { backupSuffix := some "-old.yml".toList } paths).carryOut world
    world.tree.scan "site".toList = .ok paths ∧
      ran.2.tree.scan "site".toList = .ok ["site/a.yml".toList, "site/a.yml-old.yml".toList] := by
  intro world paths ran
  have survey : ran.2.tree.survey "site".toList =
      .ok [["a.yml".toList], ["a.yml-old.yml".toList]] := by decide +kernel
  have sorted : ["site/a.yml".toList, "site/a.yml-old.yml".toList].Pairwise
      fun left right => Path.precedes left right := by decide +kernel
  refine ⟨by decide +kernel, ?_⟩
  rw [FileTree.scan, survey]
  exact congrArg Except.ok (List.mergeSort_of_pairwise sorted)

end PlaybookRepair
