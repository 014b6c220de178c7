import PlaybookRepair.CommandLine
import PlaybookRepair.Proofs.FileTree.Below
import PlaybookRepair.Proofs.Path.Order
import PlaybookRepair.Proofs.Run.File

/-!
# Collecting files

A root that is no directory stands for itself, and a directory for the documents below it that no
pattern describes (`StandsFor`). What is collected is the set of all files that the roots stand for, as
a strictly ascending list (`collectFiles_covers`).
-/

namespace PlaybookRepair

namespace CommandLine

variable {tree : FileTree} {patterns : List GlobPattern} {root : Path} {directory : Location}

/-- The files that a root stands for. -/
inductive StandsFor (tree : FileTree) (patterns : List GlobPattern) (root : Path) : Path → Prop
  /-- What is not a directory stands for itself, whether it exists or not. -/
  | itself (other : tree.isDirectory root = false) : StandsFor tree patterns root root
  /-- A directory stands for the documents below it that are in no hidden directory and whose path
  from it is described by no pattern. -/
  | document {directory names : Location} {stem extension : Text}
      (found : tree.find root = .ok (directory, .directory))
      (isFile : tree.HasFileBelow directory (names ++ [stem ++ '.' :: extension]))
      (visible : ∀ name ∈ names, ¬ Path.isHidden name)
      (notNil : stem ≠ []) (known : extension ∈ Path.documentExtensions)
      (kept : ∀ pattern ∈ patterns,
        ¬ pattern.describes (Text.join ['/'] (names ++ [stem ++ '.' :: extension]))) :
      StandsFor tree patterns root (Path.descendant root (names ++ [stem ++ '.' :: extension]))

/-- The roots stand for a path, perhaps written otherwise. -/
def Covers (tree : FileTree) (patterns : List GlobPattern) (roots : List Path) (path : Path) : Prop :=
  ∃ root ∈ roots, ∃ file, StandsFor tree patterns root file ∧ Path.same file path

/-- A pattern is held against the names that lead from the root to a file. -/
theorem isExcluded_eq_false_iff {names : Location} (notNil : root ≠ [])
    (areNames : ∀ name ∈ names, Path.IsEntryName name) :
    isExcluded patterns root (Path.descendant root names) = false ↔
      ∀ pattern ∈ patterns, ¬ pattern.describes (Text.join ['/'] names) := by
  rw [isExcluded, List.any_eq_false, Path.below_descendant notNil areNames]

/-- The documents that are kept are the files that a directory stands for. -/
theorem mem_documents_iff (proper : tree.IsProper) (found : tree.find root = .ok (directory, .directory))
    (path : Path) :
    path ∈ Location.documents root (tree.files.filterMap (FileTree.below? directory)) ∧
        isExcluded patterns root path = false ↔
      StandsFor tree patterns root path := by
  have notNil : root ≠ [] := by
    rintro rfl
    cases found
  rw [Location.documents, Path.sort, List.mem_mergeSort, List.mem_map]
  constructor
  · rintro ⟨⟨below, member, rfl⟩, kept⟩
    obtain ⟨isBelow, isDocument⟩ := List.mem_filter.mp member
    obtain ⟨-, isFile⟩ := (FileTree.mem_filesBelow_iff proper).mp isBelow
    rw [isExcluded_eq_false_iff notNil isFile.areNames] at kept
    obtain ⟨names, stem, extension, rfl, visible, hasStem, known⟩ :=
      (Location.isDocument_iff isFile.areNames).mp isDocument
    exact .document found isFile visible hasStem known kept
  · rintro (other | ⟨found', isFile, visible, hasStem, known, kept⟩)
    · rw [FileTree.isDirectory, found] at other
      cases other
    · obtain ⟨rfl, -⟩ := Prod.mk.inj (Except.ok.inj (found'.symm.trans found))
      refine ⟨⟨_, List.mem_filter.mpr ⟨?_, ?_⟩, rfl⟩, ?_⟩
      · exact (FileTree.mem_filesBelow_iff proper).mpr ⟨List.concat_ne_nil _ _, isFile⟩
      · exact (Location.isDocument_iff isFile.areNames).mpr ⟨_, _, _, rfl, visible, hasStem, known⟩
      · exact (isExcluded_eq_false_iff notNil isFile.areNames).mpr kept

/-! ## Collecting -/

theorem carryOut_ask (request : Request) (world : World) :
    (ask request).run.carryOut world = (.ok (world.answer request).1, (world.answer request).2) := rfl

/-- A result that is no failure is the result of the step. -/
theorem carryOut_orFail {ε α : Type} (failure : ε → Failure) (value : α) (world : World) :
    (orFail failure (.ok value)).run.carryOut world = (.ok value, world) := rfl

/-- A directory is surveyed. -/
theorem carryOut_survey {world : World} (found : world.tree.find root = .ok (directory, .directory)) :
    (ask (.survey root)).run.carryOut world =
      (.ok (.ok (world.tree.files.filterMap (FileTree.below? directory))), world) := by
  have survey : world.tree.survey root =
      .ok (world.tree.files.filterMap (FileTree.below? directory)) := by
    rw [FileTree.survey, found, ← FileTree.map_fst_filesBelow]
  exact congrArg (fun files => (Except.ok files, world)) survey

/-- A root is replaced by the files that it stands for. -/
theorem carryOut_filesOf {world : World} (proper : world.tree.IsProper) (patterns : List GlobPattern)
    (root : Path) :
    ∃ paths later, (filesOf patterns root).run.carryOut world = (.ok paths, later) ∧
      later.tree = world.tree ∧ ∀ path, path ∈ paths ↔ StandsFor world.tree patterns root path := by
  rw [filesOf, Action.carryOut_bind_of_ok (carryOut_ask _ _)]
  change ∃ paths later, (ite (world.tree.isDirectory root = true) _ _ : Step (List Path)).run.carryOut
    world = _ ∧ _
  split
  · next isDirectory =>
    obtain ⟨directory, found⟩ := FileTree.isDirectory_iff.mp isDirectory
    rw [Action.carryOut_bind_of_ok (carryOut_survey found),
      Action.carryOut_bind_of_ok (carryOut_orFail _ _ _)]
    dsimp only
    rw [List.partition_eq_filter_filter, Action.carryOut_bind_of_ok (Action.carryOut_lift _ world),
      Action.carryOut_logAll]
    refine ⟨_, _, rfl, rfl, fun path => ?_⟩
    rw [← mem_documents_iff proper found, List.mem_filter, Function.comp_apply, Bool.not_eq_true']
  · next other =>
    refine ⟨[root], world, rfl, rfl, fun path => ?_⟩
    rw [List.mem_singleton]
    constructor
    · rintro rfl
      exact .itself (eq_false_of_ne_true other)
    · rintro (_ | ⟨found, -⟩)
      · rfl
      · exact (other (FileTree.isDirectory_iff.mpr ⟨_, found⟩)).elim

/-- The roots are replaced one after the other. -/
theorem carryOut_gather {world : World} (proper : world.tree.IsProper) (patterns : List GlobPattern)
    (roots : List Path) :
    ∃ paths later, (collectFiles.gather patterns roots).run.carryOut world = (.ok paths, later) ∧
      ∀ path, path ∈ paths ↔ ∃ root ∈ roots, StandsFor world.tree patterns root path := by
  induction roots generalizing world with
  | nil => exact ⟨[], world, rfl, by simp⟩
  | cons root roots ih =>
      obtain ⟨first, middle, own, sameTree, areOwn⟩ := carryOut_filesOf proper patterns root
      obtain ⟨rest, later, others, areOthers⟩ := ih (sameTree ▸ proper)
      refine ⟨first ++ rest, later, ?_, fun path => ?_⟩
      · rw [collectFiles.gather, Action.carryOut_bind_of_ok own, Action.carryOut_bind_of_ok others]
        rfl
      · rw [List.mem_append, areOwn, areOthers, sameTree, List.exists_mem_cons_iff]

theorem carryOut_collectFiles_fst (patterns : List GlobPattern) (roots : List Path) (world : World) :
    ((collectFiles patterns roots).run.carryOut world).1 =
      ((collectFiles.gather patterns roots).run.carryOut world).1.map fun paths =>
        Path.withoutRepeats (Path.sort paths) := by
  rw [collectFiles, ExceptT.run_bind, Action.carryOut_bind]
  cases ((collectFiles.gather patterns roots).run.carryOut world).1 <;> rfl

/-- What is collected ascends, and it is what the roots stand for. -/
theorem carryOut_collectFiles {world : World} (proper : world.tree.IsProper)
    (patterns : List GlobPattern) (roots : List Path) :
    ∃ paths, ((collectFiles patterns roots).run.carryOut world).1 = .ok paths ∧ Path.Ascending paths ∧
      (∀ path ∈ paths, ∃ root ∈ roots, StandsFor world.tree patterns root path) ∧
      ∀ path, Path.Among paths path ↔ Covers world.tree patterns roots path := by
  obtain ⟨paths, later, gathers, stand⟩ := carryOut_gather proper patterns roots
  refine ⟨Path.withoutRepeats (Path.sort paths), ?_,
    Path.ascending_withoutRepeats (Path.pairwise_sort paths), fun path member => ?_, fun path => ?_⟩
  · rw [carryOut_collectFiles_fst, gathers]
    rfl
  · exact (stand path).mp (List.mem_mergeSort.mp ((Path.withoutRepeats_sublist _).subset member))
  · rw [Path.among_withoutRepeats]
    constructor
    · rintro ⟨file, member, isSame⟩
      obtain ⟨root, isRoot, stands⟩ := (stand file).mp (List.mem_mergeSort.mp member)
      exact ⟨root, isRoot, file, stands, isSame⟩
    · rintro ⟨root, isRoot, file, stands, isSame⟩
      exact ⟨file, List.mem_mergeSort.mpr ((stand file).mpr ⟨root, isRoot, stands⟩), isSame⟩

/-- **Collecting files.** What is collected are the files that the roots stand for, in strictly
ascending order. Roots that stand for the same files are replaced by the same files, so it does not
matter in which order the roots are listed, whether one is repeated and whether one lies below
another. -/
theorem collectFiles_covers {world : World} (proper : world.tree.IsProper)
    (patterns : List GlobPattern) (roots : List Path) :
    ∃ paths, ((collectFiles patterns roots).run.carryOut world).1 = .ok paths ∧ Path.Ascending paths ∧
      (∀ path ∈ paths, ∃ root ∈ roots, StandsFor world.tree patterns root path) ∧
      (∀ path, Path.Among paths path ↔ Covers world.tree patterns roots path) ∧
      ∀ others, (∀ path, Covers world.tree patterns others path ↔ Covers world.tree patterns roots path) →
        ∃ found, ((collectFiles patterns others).run.carryOut world).1 = .ok found ∧
          found.map Path.components = paths.map Path.components := by
  obtain ⟨paths, collects, ascends, stand, covers⟩ := carryOut_collectFiles proper patterns roots
  refine ⟨paths, collects, ascends, stand, covers, fun others alike => ?_⟩
  obtain ⟨found, finds, ascends', -, covers'⟩ := carryOut_collectFiles proper patterns others
  refine ⟨found, finds, ascends'.components_eq ascends fun path => ?_⟩
  rw [covers', covers, alike]

/-- A site with a hidden directory and a backup copy beside a document. -/
def smallSite : FileTree where
  nodes := [(["other".toList], .directory), (["other".toList, "old.yml".toList], .file .empty),
    (["site".toList], .directory), (["site".toList, ".git".toList], .directory),
    (["site".toList, ".git".toList, "a.yml".toList], .file .empty),
    (["site".toList, "tasks".toList], .directory),
    (["site".toList, "tasks".toList, "a.yaml".toList], .file .empty),
    (["site".toList, "tasks".toList, "a.yaml.bak".toList], .file .empty)]

/-- A missing file that is listed twice is collected once, and so is a document below two roots. -/
theorem collectFiles_covers_smallSite :
    let world : World := { tree := smallSite }
    let patterns := [⟨[.literal 'o', .literal 'l', .literal 'd', .anyText]⟩]
    let roots := ["gone.yml", "gone.yml", "other", "site", "site/tasks"].map String.toList
    let others := ["site", "gone.yml"].map String.toList
    let paths := ["gone.yml", "site/tasks/a.yaml"].map String.toList
    world.tree.IsProper ∧ ((collectFiles patterns roots).run.carryOut world).1 = .ok paths ∧
      Path.Ascending paths ∧ (∀ path, Path.Among paths path ↔ Covers world.tree patterns roots path) ∧
      (∀ path, Covers world.tree patterns others path ↔ Covers world.tree patterns roots path) ∧
      ∃ found, ((collectFiles patterns others).run.carryOut world).1 = .ok found ∧
        found.map Path.components = paths.map Path.components := by
  intro world patterns roots others paths
  have proper : world.tree.IsProper := by
    have names : ∀ entry ∈ world.tree.nodes, ∀ name ∈ entry.1, Path.IsEntryName name := by
      decide +kernel
    exact ⟨by decide +kernel, fun entry member => ⟨[], entry.1, rfl, rfl, names entry member⟩⟩
  have collects (roots found : List Path)
      (gathers : ((collectFiles.gather patterns roots).run.carryOut world).1 = .ok found)
      (sorted : found.Pairwise fun left right => Path.precedes left right) :
      ((collectFiles patterns roots).run.carryOut world).1 = .ok (Path.withoutRepeats found) := by
    rw [carryOut_collectFiles_fst, gathers]
    exact congrArg (fun paths => Except.ok (Path.withoutRepeats paths))
      (List.mergeSort_of_pairwise sorted)
  -- The listed roots are gathered in order, so that nothing is left to sort.
  have all := collects roots
    (["gone.yml", "gone.yml", "site/tasks/a.yaml", "site/tasks/a.yaml"].map String.toList)
    (by decide +kernel) (by decide +kernel)
  have few := collects others.reverse paths (by decide +kernel) (by decide +kernel)
  obtain ⟨_, collected, ascends, -, covers, alike⟩ := collectFiles_covers proper patterns roots
  obtain ⟨_, collected', -, -, covers', -⟩ := collectFiles_covers proper patterns others.reverse
  obtain rfl : _ = paths := (Except.ok.inj (collected.symm.trans all)).trans (by decide +kernel)
  obtain rfl : _ = paths := (Except.ok.inj (collected'.symm.trans few)).trans (by decide +kernel)
  have same (path : Path) :
      Covers world.tree patterns others path ↔ Covers world.tree patterns roots path := by
    rw [← covers, covers', Covers, Covers]
    simp only [List.mem_reverse]
  exact ⟨proper, collected, ascends, covers, same, alike others same⟩

end CommandLine

end PlaybookRepair
