import PlaybookRepair.Proofs.FileTree.Survey

/-!
# Paths below a directory

The names that lead on from a directory become components of their own (`components_descendant`), so
the path from the directory to what they lead to consists of them (`below_descendant`). Whether a file
is a document is told by its name alone: the name has one of the extensions of documents behind
something (`isDocument_iff`), and then it is not the name of a backup copy
(`isBackupName_eq_false`).
-/

namespace PlaybookRepair

/-- A mark ends one piece and starts another one. -/
theorem Text.pieces_append_mark (mark : Char) (front back : Text) :
    pieces mark (front ++ mark :: back) = pieces mark front ++ pieces mark back := by
  induction front with
  | nil =>
      rw [List.nil_append, pieces, pieces, if_pos rfl]
      rfl
  | cons c front ih =>
      rw [List.cons_append, pieces, pieces, ih]
      split
      · rfl
      · obtain ⟨piece, more, found⟩ := List.exists_cons_of_ne_nil (pieces_ne_nil mark front)
        rw [found]
        rfl

/-- What follows the last mark is the end of the text behind a mark. -/
theorem Text.afterLast_append {mark : Char} {last : Text} (unmarked : mark ∉ last) (front : Text) :
    afterLast mark (front ++ mark :: last) = last := by
  have kept : ∀ c ∈ last.reverse, (c != mark) = true := by
    intro c member
    rw [bne_iff_ne]
    rintro rfl
    exact unmarked (List.mem_reverse.mp member)
  rw [afterLast, List.reverse_append, List.reverse_cons, List.append_assoc,
    List.takeWhile_append_of_pos kept, List.singleton_append, List.takeWhile_cons_of_neg (by simp),
    List.append_nil, List.reverse_reverse]

namespace Path

/-- The names in a directory: they are not empty, are no steps to a known directory and hold no
slash. -/
def IsEntryName (name : Text) : Prop := name ≠ [] ∧ '/' ∉ name ∧ FileTree.IsName name

instance (name : Text) : Decidable (IsEntryName name) :=
  inferInstanceAs (Decidable (_ ∧ _ ∧ name ≠ ['.'] ∧ name ≠ FileTree.stepUp))

variable {directory front : Path} {name : Text} {names : List Text}

/-! ## Components -/

theorem componentOf?_name (isName : FileTree.IsName name) : componentOf? name = some (.name name) := by
  unfold componentOf?
  exact (if_neg isName.1).trans (if_neg isName.2)

theorem segments_append_slash (front back : Path) :
    segments (front ++ '/' :: back) = segments front ++ segments back := by
  rw [segments, Text.pieces_append_mark, List.filter_append]
  rfl

theorem segments_name (isEntry : IsEntryName name) : segments name = [name] := by
  obtain ⟨notNil, noSlash, _⟩ := isEntry
  rw [segments, Text.pieces_unmarked noSlash, List.filter_cons_of_pos (by simpa using notNil),
    List.filter_nil]

/-- What stands behind a slash does not tell where a path starts. -/
theorem origin_append_slash (front back : Path) :
    origin (front ++ '/' :: back) =
      if front.head?.or (some '/') = some '/' then [.top]
      else if (Text.pieces '/' front).head? = some ['.'] then [.here]
      else [] := by
  have first : (Text.pieces '/' front ++ Text.pieces '/' back).head? =
      (Text.pieces '/' front).head? := by
    obtain ⟨piece, more, found⟩ := List.exists_cons_of_ne_nil (Text.pieces_ne_nil '/' front)
    rw [found]
    rfl
  simp only [origin, isAbsolute, List.head?_append, List.head?_cons, decide_eq_true_eq,
    Text.pieces_append_mark, first]

/-- A slash at the end adds no component. -/
theorem components_append_slash (notNil : front ≠ []) :
    components (front ++ ['/']) = components front := by
  have starts : origin (front ++ ['/']) = origin front := by
    obtain ⟨c, rest, rfl⟩ := List.exists_cons_of_ne_nil notNil
    rw [origin_append_slash, origin, isAbsolute, List.head?_cons]
    by_cases slash : c = '/' <;> simp [slash]
  have nothing : segments [] = [] := rfl
  rw [components_eq, components_eq, starts, segments_append_slash, nothing, List.append_nil]

/-- A name behind a slash is one more component. -/
theorem components_append_name (front : Path) (isEntry : IsEntryName name) :
    components (front ++ '/' :: name) = components (front ++ ['/']) ++ [.name name] := by
  rw [components_eq, components_eq, origin_append_slash, origin_append_slash,
    segments_append_slash, segments_append_slash, segments_name isEntry]
  simp only [List.filterMap_append, List.filterMap_cons_some (componentOf?_name isEntry.2.2),
    List.filterMap_nil, List.append_assoc]
  rfl

theorem child_ne_nil (directory : Path) (isEntry : IsEntryName name) : child directory name ≠ [] := by
  unfold child
  split
  · exact List.append_ne_nil_of_right_ne_nil _ isEntry.1
  · exact List.append_ne_nil_of_right_ne_nil _ (List.cons_ne_nil _ _)

theorem components_child (notNil : directory ≠ []) (isEntry : IsEntryName name) :
    components (child directory name) = components directory ++ [.name name] := by
  unfold child
  split
  · next ends =>
    have slash : directory.getLast? = some '/' := by simpa [notNil] using ends
    obtain ⟨front, rfl⟩ := List.getLast?_eq_some_iff.mp slash
    rw [List.append_assoc]
    exact components_append_name front isEntry
  · rw [components_append_name directory isEntry, components_append_slash notNil]

/-- What names lead to from a directory has the names behind the components of the directory. -/
theorem components_descendant (notNil : directory ≠ []) (areEntries : ∀ name ∈ names, IsEntryName name) :
    components (descendant directory names) = components directory ++ names.map .name := by
  induction names generalizing directory with
  | nil => exact (List.append_nil _).symm
  | cons name names ih =>
      obtain ⟨isEntry, areEntries⟩ := List.forall_mem_cons.mp areEntries
      rw [descendant, List.foldl_cons, ← descendant, ih (child_ne_nil directory isEntry) areEntries,
        components_child notNil isEntry, List.append_assoc]
      rfl

/-- The names lead from a directory to what is reached by them. -/
theorem below_descendant (notNil : directory ≠ []) (areEntries : ∀ name ∈ names, IsEntryName name) :
    below directory (descendant directory names) = Text.join ['/'] names := by
  have notTop : names.map Component.name ≠ [.top] := by
    intro isTop
    obtain ⟨name, -, isTop⟩ := List.mem_map.mp (isTop ▸ List.mem_singleton_self Component.top)
    cases isTop
  have texts : (names.map Component.name).map Component.text = names := by
    rw [List.map_map]
    exact List.map_id' names
  rw [below, components_descendant notNil areEntries, List.drop_left, ofComponents, if_neg notTop, texts]

/-! ## Names of documents -/

theorem fileName?_name (isEntry : IsEntryName name) : fileName? name = some name := by
  have starts : origin name = [] := by
    obtain ⟨_, noSlash, isName⟩ := isEntry
    have relative : isAbsolute name = false :=
      decide_eq_false fun first => noSlash (List.mem_of_head? first)
    rw [origin, relative, Text.pieces_unmarked noSlash, List.head?_cons]
    exact (if_neg Bool.false_ne_true).trans (if_neg fun here => isName.1 (Option.some.inj here))
  have components : components name = [.name name] := by
    rw [components_eq, starts, segments_name isEntry, List.nil_append,
      List.filterMap_cons_some (componentOf?_name isEntry.2.2), List.filterMap_nil]
  rw [fileName?, components]
  rfl

/-- The extension of a name is what follows its last dot, if something stands before the dot. -/
theorem extension?_eq_some_iff {extension : Text} :
    extension? name = some extension ↔
      '.' ∉ extension ∧ ∃ stem, stem ≠ [] ∧ name = stem ++ '.' :: extension := by
  unfold extension?
  constructor
  · intro isExtension
    dsimp only at isExtension
    split_ifs at isExtension with shorter
    obtain rfl := Option.some.inj isExtension
    refine ⟨fun dot => ?_, ?_⟩
    · rw [Text.afterLast, List.mem_reverse] at dot
      have other := List.mem_takeWhile_imp dot
      exact absurd other (by decide)
    · have isPart : (Text.afterLast '.' name).length < name.length := by omega
      obtain ⟨stem, whole⟩ := Text.isSuffix_afterLast isPart
      refine ⟨stem, ?_, whole.symm⟩
      rintro rfl
      have same := congrArg List.length whole
      rw [List.nil_append, List.length_cons] at same
      omega
  · rintro ⟨noDot, stem, notNil, rfl⟩
    dsimp only
    rw [Text.afterLast_append noDot, if_pos]
    have positive := List.length_pos_of_ne_nil notNil
    rw [List.length_append, List.length_cons]
    omega

/-- The names of documents are those with an extension of documents behind something. -/
theorem isDocument_iff (isEntry : IsEntryName name) :
    isDocument name ↔ ∃ stem, stem ≠ [] ∧ ∃ extension ∈ documentExtensions,
      name = stem ++ '.' :: extension := by
  have noDot : ∀ extension ∈ documentExtensions, '.' ∉ extension := by decide
  rw [isDocument, fileName?_name isEntry, Option.bind_some, Option.any_eq_true]
  constructor
  · rintro ⟨extension, isExtension, known⟩
    obtain ⟨-, stem, notNil, whole⟩ := extension?_eq_some_iff.mp isExtension
    exact ⟨stem, notNil, extension, by simpa using known, whole⟩
  · rintro ⟨stem, notNil, extension, known, whole⟩
    exact ⟨extension, extension?_eq_some_iff.mpr ⟨noDot extension known, stem, notNil, whole⟩,
      by simpa using known⟩

/-- A name with an extension of documents is not the name of a backup copy. -/
theorem isBackupName_eq_false {stem extension : Text} (known : extension ∈ documentExtensions) :
    isBackupName (stem ++ '.' :: extension) = false := by
  have lasts : ∀ extension ∈ documentExtensions, ∀ ending ∈ backupEndings,
      ('.' :: extension).getLast? ≠ ending.getLast? := by decide
  rw [isBackupName, List.any_eq_false]
  intro ending isEnding ends
  obtain ⟨front, whole⟩ := List.isSuffixOf_iff_suffix.mp ends
  have notNil : ∀ ending ∈ backupEndings, ending ≠ [] := by decide
  have same := congrArg List.getLast? whole
  rw [List.getLast?_append_of_ne_nil _ (notNil ending isEnding),
    List.getLast?_append_of_ne_nil _ (List.cons_ne_nil _ _)] at same
  exact lasts extension known ending isEnding same.symm

end Path

end PlaybookRepair
