import PlaybookRepair.FileTree.Document
import PlaybookRepair.Proofs.Path

/-!
# Documents

What reading, copying and writing a document do to a file tree. Where a file may be written, all
directories on the way are there, so writing puts the text in its place and changes nothing else
(`writeDocument_of_writable`). A backup puts the content of the file in the place of the backup; if
that is the place of the file itself, the file is empty afterwards (`backUpDocument_of_file`).
-/

namespace PlaybookRepair

/-- A text is found again in its bytes. -/
theorem Text.decode?_encode (text : Text) : Text.decode? (Text.encode text) = some text := by
  have valid : (Text.encode text).IsValidUTF8 := (String.ofList text).isValidUTF8
  rw [Text.decode?, String.fromUTF8?, dif_pos valid, Option.map_some, Option.some_inj]
  exact String.toList_ofList

namespace FileTree

variable {tree old new : FileTree} {path : Path} {location : Location} {content : ByteArray}
  {text : Text}

/-! ## Writing -/

/-- A directory that exists is not made again. -/
theorem makeDirectory_of_find (found : tree.find path = .ok (location, .directory)) :
    tree.makeDirectory path = .error .alreadyExists := by
  obtain ⟨usable, walks, _⟩ := find_eq_ok_iff.mp found
  obtain ⟨last, walks, _⟩ := walk_append_eq_ok_iff.mp walks
  rcases List.eq_nil_or_concat (Path.segments path) with none | ⟨front, name, split⟩
  · have atStart : tree.lastStep path = .ok (start path, ['.']) :=
      lastStep_eq_ok_iff.mpr ⟨usable, by rw [none]; rfl,
        get?_of_isAncestor (isAncestor_start path), by rw [none]; rfl⟩
    rw [makeDirectory, atStart]
    rfl
  · rw [List.concat_eq_append] at split
    rw [split] at walks
    obtain ⟨directory, walks, last⟩ := walk_append_eq_ok_iff.mp walks
    obtain ⟨next, steps, _⟩ := walk_cons_eq_ok_iff.mp last
    obtain ⟨isDirectory, rfl, named⟩ := step_eq_ok_iff.mp steps
    rw [makeDirectory, lastStep_of_segments split usable walks isDirectory]
    by_cases isName : IsName name
    · obtain ⟨short, present⟩ := named isName
      rw [move_name isName] at present
      simp [bind, Except.bind, throw, throwThe, MonadExceptOf.throw, isName.1, isName.2,
        Nat.not_lt.mpr short, present]
    · have notName := not_isName_iff.mp isName
      simp only [bind, Except.bind, throw, throwThe, MonadExceptOf.throw]
      rw [if_pos (by rcases notName with rfl | rfl <;> simp)]

/-- The directories on the way to a place where a file may be written are there already. -/
theorem makeDirectories_of_writable (writes : tree.writable path = .ok location) :
    tree.makeDirectories (Path.components path).reverse.tail = (tree, none) := by
  obtain ⟨directory, name, lastStep, isName, _⟩ := writable_eq_ok_iff.mp writes
  obtain ⟨usable, walks, isDirectory, _⟩ := lastStep_eq_ok_iff.mp lastStep
  have split := segments_of_lastStep lastStep isName
  rw [List.tail_reverse]
  cases way : (Path.components path).dropLast.reverse with
  | nil => rfl
  | cons last rest =>
      have notNil : (Path.components path).dropLast ≠ [] := by
        rintro none
        rw [none] at way
        cases way
      have found := find_parent split isName usable walks isDirectory notNil
      rw [← List.reverse_reverse (Path.components path).dropLast, way] at found
      have leads : tree.isDirectory (Path.ofComponents (last :: rest).reverse) := by
        rw [FileTree.isDirectory, found]
      rw [makeDirectories, makeDirectory_of_find found]
      dsimp only
      rw [if_neg (by decide), if_pos leads]

/-- Where a file may be written, writing a document puts its text there and changes nothing else. -/
theorem writeDocument_of_writable (writes : tree.writable path = .ok location) (text : Text) :
    tree.writeDocument path text = (tree.set location (.file (Text.encode text)), none) := by
  rw [writeDocument, makeDirectories_of_writable writes]
  dsimp only
  rw [store, writes]
  rfl

/-! ## Reading -/

/-- A file has the content that is in the place where it would be written. -/
theorem contentAt_eq_ok_iff :
    tree.contentAt path = .ok content ↔
      ∃ location, tree.writable path = .ok location ∧ tree.get? location = some (.file content) := by
  simp only [← find_eq_file_iff]
  unfold contentAt
  cases found : tree.find path with
  | error error => simp [bind, Except.bind]
  | ok entry =>
      obtain ⟨location, _ | _⟩ := entry <;> simp [bind, Except.bind]

/-- A document is read exactly if there is a file whose content is its text. -/
theorem readDocument_eq_ok_iff :
    tree.readDocument path = .ok text ↔
      ∃ location content, tree.writable path = .ok location ∧
        tree.get? location = some (.file content) ∧ Text.decode? content = some text := by
  have found : tree.readDocument path = .ok text ↔
      ∃ content, tree.contentAt path = .ok content ∧ Text.decode? content = some text := by
    unfold readDocument
    cases has : tree.has path with
    | false =>
        simp only [Bool.not_false, ↓reduceIte, reduceCtorEq, false_iff, not_exists, not_and]
        intro content isContent
        rw [contentAt_eq_ok_iff] at isContent
        obtain ⟨location, isFile⟩ := isContent
        rw [← find_eq_file_iff] at isFile
        rw [FileTree.has, isFile] at has
        cases has
    | true =>
        simp only [Bool.not_true, Bool.false_eq_true, ↓reduceIte]
        cases tree.contentAt path with
        | error error => simp
        | ok content => rcases decoded : Text.decode? content with _ | _ <;> simp [decoded]
  rw [found]
  constructor
  · rintro ⟨content, isContent, decodes⟩
    obtain ⟨location, writes, isFile⟩ := contentAt_eq_ok_iff.mp isContent
    exact ⟨location, content, writes, isFile, decodes⟩
  · rintro ⟨location, content, writes, isFile, decodes⟩
    exact ⟨content, contentAt_eq_ok_iff.mpr ⟨location, writes, isFile⟩, decodes⟩

/-- A document that has been written is read as the text that was written. -/
theorem readDocument_of_writeDocument (writes : tree.writeDocument path text = (new, none)) :
    new.readDocument path = .ok text := by
  unfold writeDocument at writes
  split at writes
  · cases writes
  · next prepared _ =>
    cases target : prepared.writable path with
    | error error =>
      rw [store, target] at writes
      cases writes
    | ok location =>
      rw [store, target] at writes
      cases writes
      have other := other_of_writable target
      have written : (prepared.set location (.file (Text.encode text))).get? location = _ :=
        (get?_set (not_isAncestor_of_get? other) _ location).trans (if_pos rfl)
      exact readDocument_eq_ok_iff.mpr ⟨location, Text.encode text,
        (sameDirectories_set other _).writable target, written, Text.decode?_encode text⟩

/-! ## Backups -/

/-- The tree after the content of a file has been copied to another place, or to its own. -/
def withBackup (tree : FileTree) (location target : Location) (content : ByteArray) : FileTree :=
  tree.set target (.file (if target = location then .empty else content))

theorem get?_withBackup {backup : Path} {target : Location}
    (copies : tree.writable backup = .ok target) (place : Location) :
    (tree.withBackup location target content).get? place =
      if place = target then some (.file (if target = location then .empty else content))
      else tree.get? place :=
  get?_set (not_isAncestor_of_get? (other_of_writable copies)) _ place

/-- The backup of a file goes where a file may be written at the path of the backup. A file that is
its own backup is left empty. -/
theorem backUpDocument_of_file (writes : tree.writable path = .ok location)
    (isFile : tree.get? location = some (.file content)) (suffix : Text) :
    tree.backUpDocument path suffix =
      match tree.writable (path.backup suffix) with
      | .ok target => .ok (tree.withBackup location target content, path.backup suffix)
      | .error error => .error (.system error) := by
  have found := find_eq_file_iff.mpr ⟨writes, isFile⟩
  have present : tree.has path := by
    rw [has, found]
    rfl
  rw [backUpDocument, present, copy, found]
  cases copies : tree.writable (path.backup suffix) with
  | error error => rfl
  | ok target =>
      have emptied : (tree.set target (.file .empty)).get? location =
          if location = target then some (.file .empty) else tree.get? location :=
        get?_set (not_isAncestor_of_get? (other_of_writable copies)) _ _
      simp only [bind, Except.bind, Bool.not_true, Bool.false_eq_true, ↓reduceIte]
      rw [emptied, withBackup]
      by_cases same : target = location
      · rw [if_pos same.symm, if_pos same]
        dsimp only
        rw [set_set]
      · rw [if_neg (Ne.symm same), if_neg same, isFile]
        dsimp only
        rw [set_set]

end FileTree

end PlaybookRepair
