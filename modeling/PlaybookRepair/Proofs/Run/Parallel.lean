import Mathlib.Logic.Hydra
import Mathlib.Logic.Relation
import PlaybookRepair.Proofs.Outcome
import PlaybookRepair.Proofs.Run.File
import PlaybookRepair.Proofs.Run.Share

/-!
# Files at the same time

Several files may be worked on at the same time: each goes from request to request on its own, and
they share the tree. A file owns its place and the place of its backup. As long as paths have nothing
to do with each other (`Run.Independent`), what a file owns stays as if the file had been alone, and
what no file owns stays as it was (`Parallel.Follows`). So it does not matter how the steps of the
files are interleaved (`parallel_run`). Suffixes of backups with a slash in them may lead the backups
of two files to one place, and then the order decides (`parallel_run_collision`).
-/

namespace PlaybookRepair

open FileTree (kind? way Grows SameDirectories)
open Run (IsFile IsTarget Owns Handles repairFile repairFiles)

/-- Files that are worked on at the same time, in the world that they share. -/
structure Parallel where
  world : World
  /-- What is still to be done for each file that is not finished. -/
  running : List (Action Report)
  /-- The reports that have been collected. -/
  outcome : Outcome := {}

namespace Parallel

/-- All files before anything has been done. -/
def start (options : RunOptions) (world : World) (paths : List Path) : Parallel where
  world
  running := paths.map (repairFile options)

/-- A step: the next request of one of the files is answered, or the report of a finished one is
collected. -/
inductive Step : Parallel → Parallel → Prop
  | answer {world : World} {before after : List (Action Report)} {outcome : Outcome}
      (request : Request) (next : request.Answer → Action Report) :
      Step ⟨world, before ++ .ask request next :: after, outcome⟩
        ⟨(world.answer request).2, before ++ next (world.answer request).1 :: after, outcome⟩
  | collect {world : World} {before after : List (Action Report)} {outcome : Outcome}
      (report : Report) :
      Step ⟨world, before ++ .done report :: after, outcome⟩
        ⟨world, before ++ after, outcome.push report⟩

/-- Any number of steps. -/
abbrev Steps : Parallel → Parallel → Prop := Relation.ReflTransGen Step

variable {state later : Parallel}

/-! ## Ends -/

/-- What is left of an action after one of its requests. -/
inductive Rest : Action Report → Action Report → Prop
  | answer {request : Request} (next : request.Answer → Action Report) (answer : request.Answer) :
      Rest (next answer) (.ask request next)

theorem wellFounded_rest : WellFounded Rest := by
  refine ⟨fun action => ?_⟩
  induction action with
  | done report => exact ⟨_, nofun⟩
  | ask request next ih =>
      refine ⟨_, fun rest isRest => ?_⟩
      cases isRest with
      | answer _ answer => exact ih answer

/-- Files cannot be worked on forever. -/
theorem wellFounded_step : WellFounded fun later state : Parallel => Step state later := by
  have smaller := wellFounded_rest.cutExpand
  refine Subrelation.wf (fun {later state} step => ?_)
    (InvImage.wf (fun state : Parallel => (state.running : Multiset (Action Report))) smaller)
  -- The action that the step is about is replaced by what is left of it, or by nothing.
  cases step with
  | @answer world before after outcome request next =>
      refine ⟨{next (world.answer request).1}, .ask request next, ?_, ?_⟩
      · intro rest isRest
        rw [Multiset.mem_singleton.mp isRest]
        exact .answer next _
      · simp only [← Multiset.coe_add, ← Multiset.cons_coe, ← Multiset.singleton_add]
        ac_rfl
  | @collect world before after outcome report =>
      refine ⟨0, .done report, nofun, ?_⟩
      simp only [← Multiset.coe_add, ← Multiset.cons_coe, ← Multiset.singleton_add, add_zero]
      ac_rfl

/-- A step is about some file. -/
theorem Step.running_ne_nil (step : Step state later) : state.running ≠ [] := by
  cases step <;> simp

/-- As long as some file is not finished there is a step. -/
theorem running_eq_nil (ended : ∀ later, ¬ Step state later) : state.running = [] := by
  obtain ⟨world, _ | ⟨action, rest⟩, outcome⟩ := state
  · rfl
  · cases action with
    | done report => exact (ended _ (@Step.collect world [] rest outcome report)).elim
    | ask request next => exact (ended _ (@Step.answer world [] rest outcome request next)).elim

end Parallel

/-! ## Independent files -/

namespace Run

/-- Two paths that have nothing to do with each other: they denote different files, and the backup of
the one neither is the other file nor lies on the way to its backup. If the suffix of backups has no
slash the latter cannot be. -/
structure Apart (options : RunOptions) (tree : FileTree) (path other : Path) : Prop where
  file : ∀ location, tree.writable path = .ok location → tree.writable other ≠ .ok location
  backup : ∀ suffix location, options.backupSuffix = some suffix →
    tree.writable (path.backup suffix) = .ok location → tree.writable other ≠ .ok location
  offWay : ∀ suffix location, options.backupSuffix = some suffix → '/' ∈ suffix →
    tree.writable (path.backup suffix) = .ok location → location ∉ way (other.backup suffix)

/-- Paths of which no two are the same or have anything to do with each other. -/
structure Independent (options : RunOptions) (tree : FileTree) (paths : List Path) : Prop where
  distinct : (paths.map Path.components).Nodup
  apart : ∀ path ∈ paths, ∀ other ∈ paths, path ≠ other → Apart options tree path other

variable {options : RunOptions} {tree : FileTree} {path other : Path} {paths : List Path}
  {location : Location}

/-- The place of a backup is not on the way to the backup of another file. -/
theorem Apart.not_mem_way (apart : Apart options tree path other)
    (isTarget : IsTarget options tree path location) (isFile : IsFile tree other) {suffix : Text}
    (isSuffix : options.backupSuffix = some suffix) : location ∉ way (other.backup suffix) := by
  obtain ⟨⟨place, writes, _⟩, _, isSuffix', copies⟩ := isTarget
  cases isSuffix.symm.trans isSuffix'
  by_cases slash : '/' ∈ suffix
  · exact apart.offWay suffix location isSuffix slash copies
  · intro onWay
    obtain ⟨place', writes', _⟩ := isFile
    have notDirectory := FileTree.other_of_writable copies
    have own := FileTree.eq_beside_of_mem_way slash writes (FileTree.mem_way_of_writable copies)
      notDirectory
    have others := FileTree.eq_beside_of_mem_way slash writes' onWay notDirectory
    have same : place = place' := FileTree.beside_injective (FileTree.ne_nil_of_writable writes)
      (FileTree.ne_nil_of_writable writes') (own.symm.trans others)
    exact apart.file place writes (same ▸ writes')

/-- Files in different places, with a backup in a third place, under a suffix without a slash. -/
theorem apart_of_ne {place place' target : Location} {suffix : Text}
    (writes : tree.writable path = .ok place) (writes' : tree.writable other = .ok place')
    (different : place ≠ place') (isSuffix : options.backupSuffix = some suffix)
    (noSlash : '/' ∉ suffix) (copies : tree.writable (path.backup suffix) = .ok target)
    (notOther : target ≠ place') : Apart options tree path other where
  file location found := by
    cases writes.symm.trans found
    rw [writes']
    exact fun same => different (Except.ok.inj same).symm
  backup suffix' location isSuffix' found := by
    cases isSuffix.symm.trans isSuffix'
    cases copies.symm.trans found
    rw [writes']
    exact fun same => notOther (Except.ok.inj same).symm
  offWay suffix' _ isSuffix' slash := by
    cases isSuffix.symm.trans isSuffix'
    exact (noSlash slash).elim

/-- Two files own nothing together. -/
theorem not_owns (apart : Apart options tree path other) (apart' : Apart options tree other path)
    (owns : Owns options tree path location) : ¬ Owns options tree other location := by
  rcases owns with writes | isTarget
  · rintro (writes' | ⟨_, suffix, isSuffix, copies⟩)
    · exact apart.file location writes writes'
    · exact apart'.backup suffix location isSuffix copies writes
  · have ⟨_, suffix, isSuffix, copies⟩ := isTarget
    rintro (writes' | ⟨isFile, suffix', isSuffix', copies'⟩)
    · exact apart.backup suffix location isSuffix copies writes'
    · exact apart.not_mem_way isTarget isFile isSuffix' (FileTree.mem_way_of_writable copies')

end Run

/-! ## Following files through a run -/

/-- A file in the course of a run: what is still to be done for it, and the world in which it would
be if it had been alone. -/
structure Track where
  path : Path
  action : Action Report
  world : World

/-- The file is where it would be if it had been alone, and the shared tree agrees with that on what it
owns. -/
structure Track.Fits (options : RunOptions) (start : World) (shared : FileTree) (track : Track) :
    Prop where
  handles : Handles options start.tree track.path track.action
  resumes : track.action.carryOut track.world = (repairFile options track.path).carryOut start
  grows : Grows (IsTarget options start.tree track.path) start.tree track.world.tree
  agrees : ∀ location, Owns options start.tree track.path location →
    shared.get? location = track.world.tree.get? location

namespace Parallel

/-- The files of a run, running or finished, and the rest of the tree as it was. -/
structure Follows (options : RunOptions) (start : World) (paths : List Path)
    (running finished : List Track) (state : Parallel) : Prop where
  listed : ((running ++ finished).map Track.path).Perm paths
  isRunning : running.map Track.action = state.running
  isFinished : finished.map Track.action = state.outcome.reports.map Action.done
  outcome : state.outcome = .ofReports state.outcome.reports
  fits : ∀ track ∈ running ++ finished, track.Fits options start state.world.tree
  grows : Grows (fun location => ∃ path ∈ paths, IsTarget options start.tree path location)
    start.tree state.world.tree
  elsewhere : ∀ location, (∀ path ∈ paths, ¬ Owns options start.tree path location) →
    state.world.tree.get? location = start.tree.get? location

variable {options : RunOptions} {world : World} {paths : List Path} {running finished : List Track}
  {state later : Parallel}

/-- Before anything has been done all files are running. -/
theorem follows_start (options : RunOptions) (world : World) (paths : List Path) :
    Follows options world paths (paths.map fun path => ⟨path, repairFile options path, world⟩) []
      (start options world paths) where
  listed := by simp [Function.comp_def]
  isRunning := by simp [start, Function.comp_def]
  isFinished := rfl
  outcome := rfl
  fits track member := by
    rw [List.append_nil] at member
    obtain ⟨path, _, rfl⟩ := List.mem_map.mp member
    exact ⟨Run.handles_repairFile options world.tree path, rfl, .refl _ _, fun _ _ => rfl⟩
  grows := .refl _ _
  elsewhere _ _ := rfl

section

variable (independent : Run.Independent options world.tree paths)
  (follows : Follows options world paths running finished state)
include independent follows

/-- To each file the shared tree looks as if it were alone. -/
theorem Follows.alike {track : Track} (member : track ∈ running ++ finished) :
    Run.Alike options world.tree track.path state.world.tree track.world.tree := by
  have fits := follows.fits track member
  have listed : track.path ∈ paths :=
    follows.listed.subset (List.mem_map_of_mem member)
  refine ⟨follows.grows.sameDirectories, fits.grows, fits.agrees, ?_⟩
  intro isFile suffix isSuffix place onWay
  have own (owns : Owns options world.tree track.path place) :
      kind? state.world.tree place = kind? track.world.tree place :=
    congrArg (Option.map Node.isDirectory) (fits.agrees place owns)
  rcases fits.grows place with sameAlone | ⟨isTarget, _⟩
  · rcases follows.grows place with same | ⟨⟨other, isListed, isTarget⟩, _⟩
    · rw [same, sameAlone]
    · by_cases itself : other = track.path
      · exact own (.inr (itself ▸ isTarget))
      · have apart := independent.apart other isListed track.path listed itself
        exact (apart.not_mem_way isTarget isFile isSuffix onWay).elim
  · exact own (.inr isTarget)

/-- No two files have the same path. -/
theorem Follows.nodup : ((running ++ finished).map Track.path).Nodup :=
  follows.listed.symm.nodup (independent.distinct.of_map Path.components)

end

/-- One running file among all files. -/
theorem perm_track (before after finished : List Track) (track : Track) :
    (before ++ track :: after ++ finished).Perm (track :: (before ++ after ++ finished)) := by
  rw [List.append_assoc, List.cons_append, List.append_assoc]
  exact List.perm_middle

/-- A finished file joins the others. -/
theorem Follows.collect {before after : List Track} {track : Track} {report : Report}
    (follows : Follows options world paths (before ++ track :: after) finished state)
    (isDone : track.action = .done report) :
    Follows options world paths (before ++ after) (finished ++ [track])
      { state with
        running := (before ++ after).map Track.action
        outcome := state.outcome.push report } where
  listed := by
    refine List.Perm.trans (List.Perm.map _ ?_) follows.listed
    rw [← List.append_assoc]
    exact List.perm_append_singleton _ _ |>.trans (perm_track before after finished track).symm
  isRunning := rfl
  isFinished := by
    rw [List.map_append, follows.isFinished]
    simp [Outcome.push, isDone]
  outcome := by
    have pushed : Outcome.ofReports (state.outcome.reports ++ [report]) =
        (Outcome.ofReports state.outcome.reports).push report := List.foldl_concat ..
    exact (congrArg (·.push report) follows.outcome).trans pushed.symm
  fits other member := follows.fits other (by
    simp only [List.mem_append, List.mem_cons, List.not_mem_nil, or_false] at member ⊢
    tauto)
  grows := follows.grows
  elsewhere := follows.elsewhere

/-- A file whose next request is answered stays where it would be if it had been alone, and the others
do not notice. -/
theorem Follows.answer (independent : Run.Independent options world.tree paths)
    {before after : List Track} {track : Track} {request : Request}
    {next : request.Answer → Action Report}
    (follows : Follows options world paths (before ++ track :: after) finished state)
    (asks : track.action = .ask request next) :
    Follows options world paths
      (before ++ { track with
        action := next (state.world.answer request).1
        world := (track.world.answer request).2 } :: after) finished
      { state with
        world := (state.world.answer request).2
        running := before.map Track.action ++
          next (state.world.answer request).1 :: after.map Track.action } := by
  have perm := perm_track before after finished track
  have member : track ∈ before ++ track :: after ++ finished := perm.symm.subset List.mem_cons_self
  have nodup := (perm.map Track.path).nodup (follows.nodup independent)
  have listed : track.path ∈ paths := follows.listed.subset (List.mem_map_of_mem member)
  have fits := follows.fits track member
  have alike := follows.alike independent member
  obtain ⟨path, action, alone⟩ := track
  obtain rfl : action = .ask request next := asks
  have answers := fits.handles.answer alike
  exact {
    listed := by simpa using follows.listed
    isRunning := by simp
    isFinished := follows.isFinished
    outcome := follows.outcome
    fits := fun other isOther => by
      rcases List.mem_cons.mp ((perm_track before after finished _).subset isOther) with rfl | isOther
      · refine ⟨?_, ?_, fits.grows.trans answers.changesAlone.grows, answers.agrees⟩
        · rw [answers.answer]
          exact answers.handles
        · rw [answers.answer]
          exact fits.resumes
      · have others := follows.fits other (perm.symm.subset (.tail _ isOther))
        have isListed : other.path ∈ paths :=
          follows.listed.subset (List.mem_map_of_mem (perm.symm.subset (.tail _ isOther)))
        have different : other.path ≠ path := by
          intro same
          exact (List.nodup_cons.mp nodup).1 (List.mem_map.mpr ⟨other, isOther, same⟩)
        refine ⟨others.handles, others.resumes, others.grows, fun location owns => ?_⟩
        have notOwn := Run.not_owns (independent.apart _ isListed _ listed different)
          (independent.apart _ listed _ isListed different.symm) owns
        exact (answers.changes.elsewhere location notOwn).trans (others.agrees location owns)
    grows := follows.grows.trans
      (answers.changes.grows.mono fun _ isTarget => ⟨path, listed, isTarget⟩)
    elsewhere := fun location notOwned =>
      (answers.changes.elsewhere location (notOwned path listed)).trans
        (follows.elsewhere location notOwned) }

theorem Follows.step (independent : Run.Independent options world.tree paths)
    (follows : Follows options world paths running finished state) (step : Step state later) :
    ∃ running finished, Follows options world paths running finished later := by
  cases step with
  | @answer now before after outcome request next =>
      obtain ⟨front, rest, rfl, rfl, isRest⟩ := List.map_eq_append_iff.mp follows.isRunning
      obtain ⟨track, back, rfl, asks, rfl⟩ := List.map_eq_cons_iff.mp isRest
      exact ⟨_, _, follows.answer independent asks⟩
  | @collect now before after outcome report =>
      obtain ⟨front, rest, rfl, rfl, isRest⟩ := List.map_eq_append_iff.mp follows.isRunning
      obtain ⟨track, back, rfl, isDone, rfl⟩ := List.map_eq_cons_iff.mp isRest
      refine ⟨front ++ back, finished ++ [track], ?_⟩
      have collected := follows.collect isDone
      rw [List.map_append] at collected
      exact collected

/-- Whatever steps have been taken, the files can be followed. -/
theorem follows_of_steps (independent : Run.Independent options world.tree paths)
    (steps : Steps (start options world paths) state) :
    ∃ running finished, Follows options world paths running finished state := by
  induction steps with
  | refl => exact ⟨_, _, follows_start options world paths⟩
  | tail _ step ih =>
      obtain ⟨_, _, follows⟩ := ih
      exact follows.step independent step

/-! ## The end of a run -/

section

variable (follows : Follows options world paths [] finished state)
include follows

/-- In the end each file has come as far as if it had been alone. -/
theorem Follows.alone {track : Track} (member : track ∈ finished) :
    track.action = .done ((repairFile options track.path).carryOut world).1 ∧
      track.world = ((repairFile options track.path).carryOut world).2 := by
  have isDone : track.action ∈ state.outcome.reports.map Action.done :=
    follows.isFinished ▸ List.mem_map_of_mem member
  obtain ⟨report, _, isReport⟩ := List.mem_map.mp isDone
  have resumes := (follows.fits track member).resumes
  rw [← isReport, Action.carryOut] at resumes
  rw [← resumes, isReport]
  exact ⟨rfl, rfl⟩

/-- In the end there is one report for each file. -/
theorem Follows.reports_perm :
    state.outcome.reports.Perm
      (paths.map fun path => ((repairFile options path).carryOut world).1) := by
  have actions : finished.map Track.action =
      (finished.map fun track => ((repairFile options track.path).carryOut world).1).map
        Action.done := by
    rw [List.map_map]
    exact List.map_congr_left fun track member => (follows.alone member).1
  have injective : Function.Injective (Action.done : Report → Action Report) :=
    fun _ _ => Action.done.inj
  rw [follows.isFinished] at actions
  rw [List.map_injective_iff.mpr injective actions]
  have listed := follows.listed.map fun path => ((repairFile options path).carryOut world).1
  rw [List.map_map] at listed
  exact listed

/-- In the end each place is as the file that owns it has left it. -/
theorem Follows.get?_of_owns {path : Path} (member : path ∈ paths) {location : Location}
    (owns : Owns options world.tree path location) :
    state.world.tree.get? location =
      ((repairFile options path).carryOut world).2.tree.get? location := by
  obtain ⟨track, isFinished, rfl⟩ := List.mem_map.mp (follows.listed.symm.subset member)
  have alone := (follows.alone isFinished).2
  rw [← alone]
  exact (follows.fits track isFinished).agrees location owns

end

/-! ## One after the other -/

/-- An action can be carried out while the others wait. -/
theorem steps_carryOut (action : Action Report) (world : World) (before after : List (Action Report))
    (outcome : Outcome) :
    Steps ⟨world, before ++ action :: after, outcome⟩
      ⟨(action.carryOut world).2, before ++ after, outcome.push (action.carryOut world).1⟩ := by
  induction action generalizing world with
  | done report => exact .single (.collect report)
  | ask request next ih => exact .head (.answer request next) (ih _ _)

/-- To repair files one after the other is one way to work on them at the same time. -/
theorem steps_repairFiles (options : RunOptions) (paths : List Path) (world : World)
    (outcome : Outcome) :
    Steps ⟨world, paths.map (repairFile options), outcome⟩
      ⟨((repairFiles options paths).carryOut world).2, [],
        outcome.merge ((repairFiles options paths).carryOut world).1⟩ := by
  induction paths generalizing world outcome with
  | nil =>
      have none : outcome.merge ((repairFiles options []).carryOut world).1 = outcome :=
        outcome.merge_empty
      rw [none]
      exact .refl
  | cons path rest ih =>
      rw [Run.carryOut_repairFiles_cons]
      dsimp only
      rw [← Outcome.push_merge]
      exact (steps_carryOut _ world [] _ outcome).trans (ih _ _)

end Parallel

open Parallel in
/-- **Files at the same time.** If the paths of a run have nothing to do with each other, all ways to
interleave the steps of its files come to an end, and in the end the tree, the sorted reports and the
summary are those of the run that repairs the files one after the other. -/
theorem parallel_run (options : RunOptions) (world : World) (paths : List Path)
    (independent : Run.Independent options world.tree paths) :
    Acc (fun later state => Step state later) (start options world paths) ∧
      ∀ final, Steps (start options world paths) final → (∀ later, ¬ Step final later) →
        (∀ location, final.world.tree.get? location =
          ((run options paths).carryOut world).2.tree.get? location) ∧
        final.outcome.sorted = ((run options paths).carryOut world).1 := by
  refine ⟨wellFounded_step.apply _, fun final steps ended => ?_⟩
  obtain ⟨running, finished, follows⟩ := follows_of_steps independent steps
  obtain rfl : running = [] := by
    have none := follows.isRunning.trans (running_eq_nil ended)
    exact List.map_eq_nil_iff.mp none
  have inOrder := steps_repairFiles options paths world {}
  rw [Outcome.empty_merge] at inOrder
  obtain ⟨running', finished', followsOrder⟩ := follows_of_steps independent inOrder
  obtain rfl : running' = [] := List.map_eq_nil_iff.mp followsOrder.isRunning
  obtain ⟨outcome, tree⟩ := Run.carryOut_run options paths world
  rw [outcome, tree]
  constructor
  · intro location
    by_cases owned : ∃ path ∈ paths, Owns options world.tree path location
    · obtain ⟨path, listed, owns⟩ := owned
      rw [follows.get?_of_owns listed owns]
      exact (followsOrder.get?_of_owns listed owns).symm
    · have notOwned : ∀ path ∈ paths, ¬ Owns options world.tree path location :=
        fun path listed owns => owned ⟨path, listed, owns⟩
      exact (follows.elsewhere location notOwned).trans
        (followsOrder.elsewhere location notOwned).symm
  · have ordered := followsOrder.outcome
    dsimp only at ordered
    rw [follows.outcome, ordered]
    refine Outcome.sorted_eq_of_perm
      (follows.reports_perm.trans followsOrder.reports_perm.symm) fun left isLeft right isRight => ?_
    obtain ⟨path, listed, rfl⟩ := List.mem_map.mp (follows.reports_perm.subset isLeft)
    obtain ⟨other, listed', rfl⟩ := List.mem_map.mp (followsOrder.reports_perm.subset isRight)
    rw [Run.path_repairFile, Run.path_repairFile]
    intro same
    rw [List.inj_on_of_nodup_map independent.distinct listed listed' same]

/-- A list of tasks that is repaired. -/
def damagedTasks (name : String) : Text :=
  ("- name: " ++ name ++ "\n  shell: echo hi\n  dnf install foo\n").toList

open Parallel in
/-- Two files whose backups stand beside them. -/
theorem parallel_run_beside :
    let world : World := { tree := ⟨[(["a.yml".toList], .file (damagedTasks "a").encode),
      (["b.yml".toList], .file (damagedTasks "b").encode)]⟩ }
    let options : RunOptions := { backupSuffix := some ".bak".toList }
    let paths := ["b.yml".toList, "a.yml".toList]
    Run.Independent options world.tree paths ∧
      ∀ final, Steps (start options world paths) final → (∀ later, ¬ Step final later) →
        final.outcome.summary = { total := 2, fixed := 2 } := by
  intro world options paths
  have independent : Run.Independent options world.tree paths := by
    refine ⟨by decide +kernel, ?_⟩
    have writes : world.tree.writable "a.yml".toList = .ok ["a.yml".toList] := by decide +kernel
    have writes' : world.tree.writable "b.yml".toList = .ok ["b.yml".toList] := by decide +kernel
    have copies : world.tree.writable (Path.backup "a.yml".toList ".bak".toList) =
        .ok ["a.yml.bak".toList] := by decide +kernel
    have copies' : world.tree.writable (Path.backup "b.yml".toList ".bak".toList) =
        .ok ["b.yml.bak".toList] := by decide +kernel
    have apart := Run.apart_of_ne writes writes' (by decide) (show options.backupSuffix = _ from rfl)
      (by decide) copies (by decide)
    have apart' := Run.apart_of_ne writes' writes (by decide)
      (show options.backupSuffix = _ from rfl) (by decide) copies' (by decide)
    intro path listed other listed' different
    simp only [paths, List.mem_cons, List.not_mem_nil, or_false] at listed listed'
    rcases listed with rfl | rfl <;> rcases listed' with rfl | rfl
    · exact (different rfl).elim
    · exact apart'
    · exact apart
    · exact (different rfl).elim
  refine ⟨independent, fun final steps ended => ?_⟩
  have same := ((parallel_run options world paths independent).2 final steps ended).2
  refine (congrArg Outcome.summary same).trans ?_
  decide +kernel

open Parallel in
/-- Two files with one backup: which of them it is of depends on the order. -/
theorem parallel_run_collision :
    let world : World := { tree := ⟨[(["a.yml".toList], .file (damagedTasks "a").encode),
      (["b.yml".toList], .file (damagedTasks "b").encode), (["a.ymlx".toList], .directory),
      (["b.ymlx".toList], .directory)]⟩ }
    let options : RunOptions := { backupSuffix := some "x/../z".toList }
    let first := "b.yml".toList
    let second := "a.yml".toList
    (world.tree.writable first = .ok [first] ∧ world.tree.writable second = .ok [second] ∧
      world.tree.writable (Path.backup first "x/../z".toList) = .ok ["z".toList] ∧
      world.tree.writable (Path.backup second "x/../z".toList) = .ok ["z".toList]) ∧
    ∃ final, Steps (start options world [first, second]) final ∧ (∀ later, ¬ Step final later) ∧
      final.world.tree.contentAt "z".toList ≠
        ((run options [first, second]).carryOut world).2.tree.contentAt "z".toList := by
  intro world options first second
  let early := (repairFile options second).carryOut world
  let late := (repairFile options first).carryOut early.2
  refine ⟨by decide +kernel, ⟨late.2, [], (Outcome.push {} early.1).push late.1⟩, ?_,
    fun _ step => step.running_ne_nil rfl, by decide +kernel⟩
  exact (steps_carryOut _ world [repairFile options first] [] {}).trans
    (steps_carryOut _ early.2 [] [] _)

end PlaybookRepair
