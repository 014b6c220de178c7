import PlaybookRepair.Proofs.Path.Descendant

/-!
# Files below a directory

In a proper tree the files below a directory are those to which names lead from it
(`FileTree.mem_filesBelow_iff`). Those among them that are documents have an extension of documents and
are in no hidden directory (`Location.isDocument_iff`).
-/

namespace PlaybookRepair

namespace FileTree

variable {tree : FileTree} {directory location below : Location} {node : Node}

/-- Every entry has a location of its own, to which names lead from the tree's own directory, from one
above it or from the top. -/
structure IsProper (tree : FileTree) : Prop where
  distinct : tree.IsDistinct
  named : ∀ entry ∈ tree.nodes, ∃ base names, isAncestor base ∧ entry.1 = base ++ names ∧
    ∀ name ∈ names, Path.IsEntryName name

/-- The names lead from a directory down to a file. -/
structure HasFileBelow (tree : FileTree) (directory names : Location) : Prop where
  areNames : ∀ name ∈ names, Path.IsEntryName name
  isFile : ∃ content, tree.get? (directory ++ names) = some (.file content)

theorem isDirectory_iff {path : Path} :
    tree.isDirectory path ↔ ∃ location, tree.find path = .ok (location, .directory) := by
  unfold isDirectory
  split
  · next location found => exact iff_of_true rfl ⟨location, found⟩
  · next other => exact iff_of_false nofun fun ⟨location, found⟩ => other location found

theorem below?_eq_some_iff : below? directory location = some below ↔
    location = directory ++ below ∧ ∃ name rest, below = name :: rest ∧ isAncestor [name] = false := by
  unfold below?
  constructor
  · intro leads
    split at leads
    · next isBelow =>
      obtain ⟨rest, rfl⟩ := List.isPrefixOf_iff_prefix.mp isBelow
      rw [List.drop_left] at leads
      split at leads
      · cases leads
      · next name rest =>
        split at leads
        · cases leads
        · next other =>
          obtain rfl := Option.some.inj leads
          exact ⟨rfl, name, rest, rfl, eq_false_of_ne_true other⟩
    · cases leads
  · rintro ⟨rfl, name, rest, rfl, other⟩
    rw [if_pos (List.isPrefixOf_iff_prefix.mpr (List.prefix_append _ _)), List.drop_left]
    simp only [other]
    rfl

/-- A step on the way to an ancestor leads to an ancestor. -/
theorem isAncestor_of_mem {name : Text} (ancestor : isAncestor location) (member : name ∈ location) :
    isAncestor [name] := by
  unfold isAncestor at ancestor ⊢
  obtain isTop | steps := Bool.or_eq_true_iff.mp ancestor
  · rw [of_decide_eq_true isTop, top, List.mem_singleton] at member
    rw [member]
    rfl
  · rw [of_decide_eq_true (List.all_eq_true.mp steps name member)]
    rfl

/-- Steps to ancestors are no names. -/
theorem isAncestor_name {name : Text} (isEntry : Path.IsEntryName name) : isAncestor [name] = false := by
  obtain ⟨_, noSlash, isName⟩ := isEntry
  rw [isAncestor, Bool.or_eq_false_iff]
  refine ⟨decide_eq_false fun isTop => ?_, ?_⟩
  · obtain rfl := List.singleton_inj.mp isTop
    exact noSlash List.mem_cons_self
  · rw [List.all_cons, decide_eq_false isName.2]
    rfl

theorem isAncestor_eq_false {name : Text} (isEntry : Path.IsEntryName name)
    (member : name ∈ location) : isAncestor location = false := by
  refine eq_false_of_ne_true fun ancestor => ?_
  have known := isAncestor_of_mem ancestor member
  rw [isAncestor_name isEntry] at known
  cases known

/-- What leads from a directory to an entry consists of names. -/
theorem IsProper.isEntryName (proper : tree.IsProper) (member : (location, node) ∈ tree.nodes)
    (leads : below? directory location = some below) : ∀ name ∈ below, Path.IsEntryName name := by
  obtain ⟨base, names, ancestor, split, areNames⟩ := proper.named _ member
  obtain ⟨whole, first, rest, isBelow, other⟩ := below?_eq_some_iff.mp leads
  obtain ⟨more, -, rfl⟩ | ⟨more, rfl, isMore⟩ := List.append_eq_append_iff.mp (split.symm.trans whole)
  · exact fun name isName => areNames name (List.mem_append_right _ isName)
  · cases more with
    | nil => rwa [isMore]
    | cons step more =>
        obtain ⟨rfl, -⟩ := List.cons.inj (isBelow.symm.trans isMore)
        have known := isAncestor_of_mem ancestor (List.mem_append_right directory List.mem_cons_self)
        rw [other] at known
        cases known

theorem mem_files_iff :
    location ∈ tree.files ↔ ∃ content, (location, Node.file content) ∈ tree.nodes := by
  rw [files, List.mem_filterMap]
  constructor
  · rintro ⟨⟨place, content | _⟩, member, isPlace⟩
    · obtain rfl := Option.some.inj isPlace
      exact ⟨content, member⟩
    · cases isPlace
  · rintro ⟨content, member⟩
    exact ⟨_, member, rfl⟩

theorem mem_nodes_iff (distinct : tree.IsDistinct) (other : isAncestor location = false) :
    (location, node) ∈ tree.nodes ↔ tree.get? location = some node := by
  rw [get?, other]
  refine ⟨lookup_of_mem distinct, fun found => ?_⟩
  obtain ⟨before, after, split, -⟩ := List.lookup_eq_some_iff.mp found
  rw [split]
  exact List.mem_append_right _ List.mem_cons_self

/-- What lies below a directory is reached by names. -/
theorem mem_filesBelow_iff (proper : tree.IsProper) :
    below ∈ tree.files.filterMap (below? directory) ↔
      below ≠ [] ∧ tree.HasFileBelow directory below := by
  have other {name : Text} {rest : Location} (isEntry : Path.IsEntryName name) :
      isAncestor (directory ++ name :: rest) = false :=
    isAncestor_eq_false isEntry (List.mem_append_right directory List.mem_cons_self)
  rw [List.mem_filterMap]
  constructor
  · rintro ⟨location, isFile, leads⟩
    obtain ⟨content, member⟩ := mem_files_iff.mp isFile
    have areNames := proper.isEntryName member leads
    obtain ⟨rfl, name, rest, rfl, -⟩ := below?_eq_some_iff.mp leads
    have isEntry := areNames name List.mem_cons_self
    exact ⟨List.cons_ne_nil _ _, areNames, content,
      (mem_nodes_iff proper.distinct (other isEntry)).mp member⟩
  · rintro ⟨notNil, areNames, content, isFile⟩
    obtain ⟨name, rest, rfl⟩ := List.exists_cons_of_ne_nil notNil
    have isEntry := areNames name List.mem_cons_self
    have member := (mem_nodes_iff proper.distinct (other isEntry)).mpr isFile
    exact ⟨_, mem_files_iff.mpr ⟨content, member⟩,
      below?_eq_some_iff.mpr ⟨rfl, name, rest, rfl, isAncestor_name isEntry⟩⟩

end FileTree

/-- The documents below a root are the files with an extension of documents that no hidden directory
holds. -/
theorem Location.isDocument_iff {below : Location} (areNames : ∀ name ∈ below, Path.IsEntryName name) :
    isDocument below ↔ ∃ names stem extension, below = names ++ [stem ++ '.' :: extension] ∧
      (∀ name ∈ names, ¬ Path.isHidden name) ∧ stem ≠ [] ∧ extension ∈ Path.documentExtensions := by
  unfold isDocument
  constructor
  · intro document
    split at document
    · cases document
    · next name last =>
      obtain ⟨names, rfl⟩ := List.getLast?_eq_some_iff.mp last
      have isEntry := areNames name (List.mem_append_right _ List.mem_cons_self)
      simp only [Bool.and_eq_true, Bool.not_eq_true', List.any_eq_false, List.dropLast_concat]
        at document
      obtain ⟨⟨visible, isDocument⟩, -⟩ := document
      obtain ⟨stem, notNil, extension, known, rfl⟩ := (Path.isDocument_iff isEntry).mp isDocument
      exact ⟨names, stem, extension, rfl, visible, notNil, known⟩
  · rintro ⟨names, stem, extension, rfl, visible, notNil, known⟩
    have isEntry := areNames _ (List.mem_append_right names List.mem_cons_self)
    have isDocument := (Path.isDocument_iff isEntry).mpr ⟨stem, notNil, extension, known, rfl⟩
    rw [List.getLast?_concat]
    simp only [Bool.and_eq_true, Bool.not_eq_true', List.any_eq_false, List.dropLast_concat]
    exact ⟨⟨visible, isDocument⟩, Path.isBackupName_eq_false known⟩

end PlaybookRepair
