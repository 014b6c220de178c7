import PlaybookRepair.Proofs.FileTree.Kinds

/-!
# Finding documents

The documents under a root are found among all files of the tree (`scan_eq_ok_iff`). A file that is
put where none was comes after all others (`gains_set`), and one that takes the place of a file
changes nothing that a scan looks at. So when a tree gains files, a scan finds what it found before,
exactly if none of the new files is a document under the root (`Gains.scan_iff`).
-/

namespace PlaybookRepair

/-! ## Names of documents -/

/-- What is joined ends with the last of the texts. -/
theorem Text.isSuffix_join (separator : Text) (front : List Text) (last : Text) :
    last <:+ join separator (front ++ [last]) := by
  induction front with
  | nil => exact List.suffix_rfl
  | cons text front ih =>
    rw [List.cons_append, join]
    · exact ih.trans (List.suffix_append _ _)
    · exact List.concat_ne_nil _ _

/-- The part of a name after its last dot stands at the end of the name, behind the dot. -/
theorem Text.isSuffix_afterLast {mark : Char} {text : Text}
    (shorter : (afterLast mark text).length < text.length) :
    mark :: afterLast mark text <:+ text := by
  have parts := List.takeWhile_append_dropWhile (p := (· != mark)) (l := text.reverse)
  have first := List.head?_dropWhile_not (· != mark) text.reverse
  cases rest : text.reverse.dropWhile (· != mark) with
  | nil =>
    rw [rest, List.append_nil] at parts
    rw [afterLast, parts, List.reverse_reverse] at shorter
    exact (Nat.lt_irrefl _ shorter).elim
  | cons c rest' =>
    rw [rest] at parts first
    obtain rfl : c = mark := by simpa using first
    refine ⟨rest'.reverse, ?_⟩
    have whole := congrArg List.reverse parts
    rw [List.reverse_reverse, List.reverse_append, List.reverse_cons, List.append_assoc] at whole
    exact whole

namespace Path

/-- The names of documents end with a dot and an extension of documents. -/
def HasExtension (path : Path) : Prop :=
  ∃ extension ∈ documentExtensions, '.' :: extension <:+ path

instance (path : Path) : Decidable path.HasExtension :=
  inferInstanceAs (Decidable (∃ extension ∈ documentExtensions, '.' :: extension <:+ path))

theorem hasExtension_of_isDocument {name : Text} (noSlash : '/' ∉ name)
    (document : isDocument name) : HasExtension name := by
  unfold isDocument at document
  cases found : (fileName? name).bind extension? with
  | none =>
    rw [found] at document
    cases document
  | some extension =>
    rw [found] at document
    refine ⟨extension, by simpa using document, ?_⟩
    obtain ⟨text, isName, isExtension⟩ := Option.bind_eq_some_iff.mp found
    have same : text = name := by
      unfold fileName? at isName
      split at isName
      · next text' last =>
        obtain rfl : text' = text := Option.some.inj isName
        have isLast := List.mem_of_getLast? last
        rw [components_eq, List.mem_append] at isLast
        obtain inOrigin | isStep := isLast
        · unfold origin at inOrigin
          split_ifs at inOrigin <;> simp at inOrigin
        · obtain ⟨segment, member, isComponent⟩ := List.mem_filterMap.mp isStep
          rw [mem_segments, Text.pieces_unmarked noSlash, List.mem_singleton] at member
          unfold componentOf? at isComponent
          split_ifs at isComponent
          · cases isComponent
          · cases isComponent
            exact member.1
      · cases isName
    subst same
    unfold extension? at isExtension
    dsimp only at isExtension
    split_ifs at isExtension with shorter
    obtain rfl := Option.some.inj isExtension
    exact Text.isSuffix_afterLast (by omega)

theorem HasExtension.mono {path longer : Path} (has : HasExtension path) (isEnd : path <:+ longer) :
    HasExtension longer := by
  obtain ⟨extension, known, ends⟩ := has
  exact ⟨extension, known, ends.trans isEnd⟩

/-- The path of a backup ends with an extension of documents only if what is put behind the path of
the document does so. -/
theorem hasExtension_suffix {path : Path} {suffix : Text} (has : HasExtension path)
    (notNil : suffix ≠ []) (backup : HasExtension (path.backup suffix)) : HasExtension suffix := by
  obtain ⟨extension, known, ends⟩ := backup
  obtain within | around := List.suffix_or_suffix_of_suffix ends (List.suffix_append path suffix)
  · exact ⟨extension, known, within⟩
  · obtain ⟨front, whole⟩ := around
    obtain ⟨before, same⟩ := ends
    rw [← whole, ← List.append_assoc] at same
    have isFront : before ++ front = path := List.append_cancel_right same
    cases front using List.reverseRecOn with
    | nil => exact ⟨extension, known, ⟨[], whole.symm⟩⟩
    | append_singleton front last =>
      -- A document ends with `l`, which stands nowhere in an extension but at its end.
      have isLast : last = 'l' := by
        obtain ⟨extension', known', start, ends'⟩ := has
        have pathLast : path.getLast? = some 'l' := by
          rw [← ends', List.getLast?_append]
          have lasts : ∀ extension ∈ documentExtensions,
              ('.' :: extension).getLast? = some 'l' := by decide
          rw [lasts extension' known']
          rfl
        rw [← isFront, ← List.append_assoc, List.getLast?_concat] at pathLast
        exact Option.some.inj pathLast
      have inside : last ∈ ('.' :: extension).dropLast := by
        rw [← whole, List.dropLast_append_of_ne_nil notNil]
        simp
      have nowhere : ∀ extension ∈ documentExtensions, 'l' ∉ ('.' :: extension).dropLast := by decide
      rw [isLast] at inside
      exact (nowhere extension known inside).elim

theorem hasExtension_child (directory : Path) {name : Text} (has : HasExtension name) :
    HasExtension (child directory name) := by
  unfold child
  split
  · exact has.mono (List.suffix_append _ _)
  · exact has.mono ((List.suffix_cons '/' name).trans (List.suffix_append _ _))

end Path

namespace FileTree

variable {tree old new last : FileTree} {location directory : Location} {root : Path}
  {paths : List Path} {added more : List Location}

/-- The locations of the files of a tree. -/
def files (tree : FileTree) : List Location :=
  tree.nodes.filterMap fun entry => if entry.2.isDirectory then none else some entry.1

/-- Whether a scan of a root finds a file at a location. -/
def Lists (tree : FileTree) (root : Path) (location : Location) : Prop :=
  ∃ directory below, tree.find root = .ok (directory, .directory) ∧
    below? directory location = some below ∧ Location.isDocument below

theorem map_fst_filesBelow (tree : FileTree) (directory : Location) :
    (tree.filesBelow directory).map Prod.fst = tree.files.filterMap (below? directory) := by
  rw [filesBelow, files, List.map_filterMap, List.filterMap_filterMap]
  congr 1
  funext entry
  obtain ⟨location, content | _⟩ := entry
  · dsimp only
    rw [Option.map_map]
    exact Option.map_id'
  · rfl

/-- A scan succeeds exactly if the root is a directory, and then it finds all documents below it. -/
theorem scan_eq_ok_iff :
    tree.scan root = .ok paths ↔ ∃ directory, tree.find root = .ok (directory, .directory) ∧
      paths = Location.documents root (tree.files.filterMap (below? directory)) := by
  unfold scan survey
  rcases tree.find root with _ | ⟨directory, _ | _⟩
  · simp [Except.map]
  · simp [Except.map]
  · simp [Except.map, map_fst_filesBelow, eq_comm]

/-- What leads to a location from a directory is the end of the location. -/
theorem isSuffix_of_below? {below : Location} (leads : below? directory location = some below) :
    below <:+ location := by
  unfold below? at leads
  split at leads
  · split at leads
    · cases leads
    · next name rest rests =>
      split at leads
      · cases leads
      · cases leads
        rw [← rests]
        exact List.drop_suffix _ _
  · cases leads

theorem exists_name_of_isDocument {below : Location} (document : Location.isDocument below) :
    ∃ front name, below = front ++ [name] ∧ Path.isDocument name := by
  unfold Location.isDocument at document
  split at document
  · cases document
  · next name last =>
    obtain ⟨front, rfl⟩ := List.getLast?_eq_some_iff.mp last
    simp only [Bool.and_eq_true] at document
    exact ⟨front, name, rfl, document.1.2⟩

/-- The paths that a scan finds are those of documents. -/
theorem hasExtension_of_scan (names : ∀ location ∈ tree.files, ∀ name ∈ location, '/' ∉ name)
    (scans : tree.scan root = .ok paths) {path : Path} (member : path ∈ paths) :
    path.HasExtension := by
  obtain ⟨directory, -, rfl⟩ := scan_eq_ok_iff.mp scans
  rw [Location.documents, Path.sort, List.mem_mergeSort] at member
  obtain ⟨below, isBelow, rfl⟩ := List.mem_map.mp member
  obtain ⟨isFile, document⟩ := List.mem_filter.mp isBelow
  obtain ⟨location, isLocation, leads⟩ := List.mem_filterMap.mp isFile
  obtain ⟨front, name, rfl, named⟩ := exists_name_of_isDocument document
  have noSlash := names location isLocation name
    ((isSuffix_of_below? leads).subset (List.mem_append_right _ List.mem_cons_self))
  rw [Path.descendant, List.foldl_append]
  exact Path.hasExtension_child _ (Path.hasExtension_of_isDocument noSlash named)

/-- The name of the last step of a path stands at its end, unless a slash does. -/
theorem isSuffix_of_lastStep {path : Path} {name : Text}
    (steps : tree.lastStep path = .ok (directory, name)) (isName : IsName name)
    (noSlash : endsWithSlash path = false) : name <:+ path ∧ '/' ∉ name := by
  have noMark : '/' ∉ ([] : Text) := List.not_mem_nil
  obtain ⟨pieces, last, isPieces, -, ends⟩ := Text.pieces_append noMark path
  have isPath : Text.join ['/'] (pieces ++ [last]) = path := isPieces ▸ Text.join_pieces '/' path
  have split := segments_of_lastStep steps isName
  have notNil : last ≠ [] := by
    intro none
    obtain rfl | slash := ends none
    · cases (List.append_eq_nil_iff.mp split.symm).2
    · rw [endsWithSlash, slash] at noSlash
      cases noSlash
  rw [Path.segments, isPieces, List.filter_append, List.filter_cons_of_pos (by simpa using notNil),
    List.filter_nil] at split
  obtain rfl : last = name := List.singleton_inj.mp (List.append_inj' split rfl).2
  have isPiece : last ∈ Text.pieces '/' path := by
    rw [isPieces]
    exact List.mem_append_right _ List.mem_cons_self
  exact ⟨isPath ▸ Text.isSuffix_join ['/'] pieces last, Text.not_mem_of_mem_pieces isPiece⟩

/-- A path leads to the place of a document only if it has the extension of one. -/
theorem Lists.hasExtension {path : Path} (listed : tree.Lists root location)
    (writes : tree.writable path = .ok location) : path.HasExtension := by
  obtain ⟨directory, below, -, leads, document⟩ := listed
  obtain ⟨front, name, rfl, named⟩ := exists_name_of_isDocument document
  obtain ⟨way, last, lastStep, isName, noSlash, -, rfl, -⟩ := writable_eq_ok_iff.mp writes
  have same : name = last := by
    obtain ⟨before, split⟩ := isSuffix_of_below? leads
    rw [← List.append_assoc] at split
    exact List.singleton_inj.mp (List.append_inj' split rfl).2
  subst same
  obtain ⟨isEnd, noSlashInside⟩ := isSuffix_of_lastStep lastStep isName noSlash
  exact (Path.hasExtension_of_isDocument noSlashInside named).mono isEnd

/-! ## Gaining files -/

/-- No two entries of the tree are at one location. -/
def IsDistinct (tree : FileTree) : Prop := (tree.nodes.map Prod.fst).Nodup

instance (tree : FileTree) : Decidable tree.IsDistinct :=
  inferInstanceAs (Decidable (List.Nodup _))

theorem lookup_of_mem {nodes : List (Location × Node)} {node : Node}
    (distinct : (nodes.map Prod.fst).Nodup) (member : (location, node) ∈ nodes) :
    nodes.lookup location = some node := by
  obtain ⟨before, after, rfl⟩ := List.append_of_mem member
  refine List.lookup_eq_some_iff.mpr ⟨before, after, rfl, fun entry earlier => ?_⟩
  rw [List.map_append, List.map_cons] at distinct
  have apart : entry.1 ≠ location := (List.nodup_append.mp distinct).2.2 entry.1
    (List.mem_map_of_mem earlier) location List.mem_cons_self
  simpa using Ne.symm apart

/-- The tree has the files and directories that another one has, and further files. -/
structure Gains (old new : FileTree) (added : List Location) : Prop where
  distinct : new.IsDistinct
  same : SameDirectories old new
  files : new.files = old.files ++ added
  empty : ∀ location, new.get? location = none ↔ old.get? location = none ∧ location ∉ added

theorem Gains.refl (distinct : tree.IsDistinct) : Gains tree tree [] where
  distinct := distinct
  same := .refl tree
  files := (List.append_nil _).symm
  empty _ := (and_iff_left List.not_mem_nil).symm

theorem Gains.trans (gains : Gains old new added) (later : Gains new last more) :
    Gains old last (added ++ more) where
  distinct := later.distinct
  same := gains.same.trans later.same
  files := by rw [later.files, gains.files, List.append_assoc]
  empty location := by
    rw [later.empty, gains.empty, List.mem_append, not_or, and_assoc]

/-- A file that is set is new if there was nothing in its place. -/
theorem gains_set (distinct : tree.IsDistinct) (other : tree.get? location ≠ some .directory)
    (content : ByteArray) :
    Gains tree (tree.set location (.file content))
      (if tree.get? location = none then [location] else []) := by
  have notAncestor := not_isAncestor_of_get? other
  have found : tree.get? location = tree.nodes.lookup location := by
    rw [get?, notAncestor]
    rfl
  have empty (place : Location) : (tree.set location (.file content)).get? place = none ↔
      tree.get? place = none ∧ place ∉ if tree.get? location = none then [location] else [] := by
    rw [get?_set notAncestor]
    by_cases same : place = location
    · subst same
      by_cases absent : tree.get? place = none <;> simp [absent]
    · rw [if_neg same]
      split <;> simp [same]
  by_cases present : tree.nodes.any (·.1 = location)
  · obtain ⟨⟨place, node⟩, member, isPlace⟩ := List.any_eq_true.mp present
    obtain rfl : place = location := of_decide_eq_true isPlace
    have isThere : tree.get? place = some node := found.trans (lookup_of_mem distinct member)
    have nodes : (tree.set place (.file content)).nodes =
        tree.nodes.map fun entry => if entry.1 = place then (place, .file content) else entry :=
      if_pos present
    refine ⟨?_, sameDirectories_set other _, ?_, empty⟩
    · rw [IsDistinct, nodes, List.map_map]
      refine (List.map_congr_left fun entry _ => ?_).symm ▸ distinct
      by_cases same : entry.1 = place <;> simp [same]
    · rw [if_neg (by simp [isThere]), List.append_nil, files, nodes, List.filterMap_map, files]
      apply List.filterMap_congr
      rintro ⟨place', node'⟩ member'
      by_cases same : place' = place
      · subst same
        obtain rfl : node' = node := Option.some.inj
          ((lookup_of_mem distinct member').symm.trans (lookup_of_mem distinct member))
        cases node' with
        | file => simp [Node.isDirectory]
        | directory => exact (other isThere).elim
      · simp [same]
  · have absent : tree.get? location = none := found.trans (lookup_eq_none_of_not_any present)
    have nodes : (tree.set location (.file content)).nodes = tree.nodes ++ [(location, .file content)] :=
      if_neg present
    refine ⟨?_, sameDirectories_set other _, ?_, empty⟩
    · rw [IsDistinct, nodes, List.map_append]
      refine List.nodup_append.mpr ⟨distinct, by simp, fun place member => ?_⟩
      rintro other' isLast rfl
      obtain ⟨entry, isEntry, isPlace⟩ := List.mem_map.mp member
      refine present (List.any_eq_true.mpr ⟨entry, isEntry, decide_eq_true ?_⟩)
      exact isPlace.trans (List.mem_singleton.mp isLast)
    · rw [files, nodes, List.filterMap_append, if_pos absent]
      rfl

/-- A scan finds what it found before and the documents among the new files. -/
theorem Gains.scan_eq (gains : Gains old new added) (scans : old.scan root = .ok paths) :
    ∃ found, new.scan root = .ok found ∧ paths ⊆ found ∧
      (found = paths ↔ ∀ location ∈ added, ¬ old.Lists root location) := by
  obtain ⟨directory, isRoot, rfl⟩ := scan_eq_ok_iff.mp scans
  refine ⟨_, scan_eq_ok_iff.mpr ⟨directory, gains.same.find isRoot, rfl⟩, ?_, ?_⟩
  · intro path member
    rw [Location.documents, Path.sort, List.mem_mergeSort] at member ⊢
    rw [gains.files, List.filterMap_append, List.filter_append, List.map_append]
    exact List.mem_append_left _ member
  · have noDocument : (∀ location ∈ added, ¬ old.Lists root location) ↔
        (added.filterMap (below? directory)).filter Location.isDocument = [] := by
      rw [List.filter_eq_nil_iff]
      constructor
      · intro unlisted below isBelow isDocument
        obtain ⟨location, member, leads⟩ := List.mem_filterMap.mp isBelow
        exact unlisted location member ⟨directory, below, isRoot, leads, isDocument⟩
      · rintro none location member ⟨directory', below, isRoot', leads, isDocument⟩
        obtain rfl : directory' = directory :=
          congrArg Prod.fst (Except.ok.inj (isRoot'.symm.trans isRoot))
        exact none below (List.mem_filterMap.mpr ⟨location, member, leads⟩) isDocument
    rw [noDocument]
    constructor
    · intro same
      have lengths := congrArg List.length same
      simp only [Location.documents, Path.sort, List.length_mergeSort, List.length_map, gains.files,
        List.filterMap_append, List.filter_append, List.length_append] at lengths
      exact List.length_eq_zero_iff.mp (by omega)
    · intro none
      rw [Location.documents, Location.documents, gains.files, List.filterMap_append,
        List.filter_append, none, List.append_nil]

end FileTree

end PlaybookRepair
