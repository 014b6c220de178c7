import PlaybookRepair.Proofs.FileTree.Document

/-!
# Trees that differ in their files

How a path is followed depends on what kind of thing is at the locations that it passes (`way`), and
not on the contents of files. A tree that has grown by some files (`Grows`) has the same directories,
so a path leads to the same place in it, if anywhere; even the error of a path that cannot be followed
is the same unless a new file is on its way (`writable_congr`).
-/

namespace PlaybookRepair

/-- Whether something is a directory. -/
def Node.isDirectory : Node → Bool
  | file _ => false
  | directory => true

namespace FileTree

variable {tree old new : FileTree} {location : Location} {path : Path} {content : ByteArray}
  {targets : Location → Prop}

/-- What kind of thing is at a location: a directory or a file, if anything. -/
def kind? (tree : FileTree) (location : Location) : Option Bool :=
  (tree.get? location).map Node.isDirectory

theorem kind?_eq_true_iff : tree.kind? location = some true ↔ tree.get? location = some .directory := by
  unfold kind?
  rcases tree.get? location with _ | _ | _ <;> simp [Node.isDirectory]

theorem kind?_eq_false_iff :
    tree.kind? location = some false ↔ ∃ content, tree.get? location = some (.file content) := by
  unfold kind?
  rcases tree.get? location with _ | _ | _ <;> simp [Node.isDirectory]

theorem isSome_kind? : (tree.kind? location).isSome = (tree.get? location).isSome :=
  Option.isSome_map

/-! ## Following a path -/

/-- The locations that a path passes, whether there is anything or not. -/
def way (path : Path) : List Location := (Path.segments path).scanl move (start path)

/-- A step is a matter of kinds. -/
theorem step_congr {segment : Text} (here : new.kind? location = old.kind? location)
    (there : new.kind? (move location segment) = old.kind? (move location segment)) :
    new.step location segment = old.step location segment := by
  have present := congrArg Option.isSome there
  rw [isSome_kind?, isSome_kind?] at present
  unfold kind? at here
  unfold step
  rcases newNode : new.get? location with _ | _ | _ <;>
    rcases oldNode : old.get? location with _ | _ | _ <;>
    simp only [newNode, oldNode, Option.map_none, Option.map_some, Node.isDirectory, reduceCtorEq,
      Option.some.injEq, Bool.false_eq_true] at here ⊢
  by_cases dot : segment = ['.']
  · rw [if_pos dot, if_pos dot]
  · by_cases up : segment = stepUp
    · rw [if_neg dot, if_neg dot, if_pos up, if_pos up]
    · rw [move, if_neg dot, if_neg up] at present
      rw [present]

/-- A walk is a matter of the kinds on its way. -/
theorem walk_congr {segments : List Text}
    (kinds : ∀ place ∈ segments.scanl move location, new.kind? place = old.kind? place) :
    new.walk location segments = old.walk location segments := by
  induction segments generalizing location with
  | nil => rfl
  | cons segment segments ih =>
      rw [List.scanl_cons, List.forall_mem_cons] at kinds
      obtain ⟨here, later⟩ := kinds
      have there : move location segment ∈ segments.scanl move (move location segment) := by
        cases segments <;> simp
      have steps := step_congr here (later _ there)
      unfold walk at ih ⊢
      rw [List.foldlM_cons, List.foldlM_cons, steps]
      cases taken : old.step location segment with
      | error error => rfl
      | ok next =>
          obtain ⟨_, rfl, _⟩ := step_eq_ok_iff.mp taken
          exact ih later

/-- A walk ends where its steps lead. -/
theorem walk_eq_foldl {segments : List Text} {final : Location}
    (walks : tree.walk location segments = .ok final) : final = segments.foldl move location := by
  induction segments generalizing location with
  | nil => exact (Except.ok.inj walks).symm
  | cons segment segments ih =>
      obtain ⟨next, steps, follows⟩ := walk_cons_eq_ok_iff.mp walks
      obtain ⟨_, rfl, _⟩ := step_eq_ok_iff.mp steps
      exact ih follows

/-- The locations on the way to the directory of the last step are on the way of the path. -/
theorem way_dropLast_subset (path : Path) :
    (Path.segments path).dropLast.scanl move (start path) ⊆ way path := by
  rw [List.dropLast_eq_take, ← List.take_scanl]
  exact (List.take_sublist _ _).subset

/-- The place where a file is written is on the way of its path. -/
theorem mem_way_of_lastStep {directory : Location} {name : Text}
    (steps : tree.lastStep path = .ok (directory, name)) (isName : IsName name) :
    directory ++ [name] ∈ way path := by
  obtain ⟨_, walks, _, _⟩ := lastStep_eq_ok_iff.mp steps
  have last : (way path).getLast? = some ((Path.segments path).foldl move (start path)) :=
    List.getLast?_scanl
  rw [segments_of_lastStep steps isName, List.foldl_append, ← walk_eq_foldl walks, List.foldl_cons,
    List.foldl_nil, move_name isName] at last
  exact List.mem_of_getLast? last

theorem mem_way_of_writable (writes : tree.writable path = .ok location) : location ∈ way path := by
  obtain ⟨_, _, steps, isName, _, _, rfl, _⟩ := writable_eq_ok_iff.mp writes
  exact mem_way_of_lastStep steps isName

/-- The last step of a path, or why it cannot be taken, is a matter of the kinds on its way. -/
theorem lastStep_congr (kinds : ∀ place ∈ way path, new.kind? place = old.kind? place) :
    new.lastStep path = old.lastStep path := by
  unfold lastStep
  have walks : new.walk (start path) (Path.segments path).dropLast =
      old.walk (start path) (Path.segments path).dropLast :=
    walk_congr fun place member => kinds place (way_dropLast_subset path member)
  cases unusable? path with
  | some error => rfl
  | none =>
      dsimp only
      rw [walks]
      cases walks : old.walk (start path) (Path.segments path).dropLast with
      | error error => rfl
      | ok directory =>
          have last : directory ∈ (Path.segments path).dropLast.scanl move (start path) := by
            rw [walk_eq_foldl walks]
            exact List.mem_of_getLast? List.getLast?_scanl
          have kind := kinds directory (way_dropLast_subset path last)
          unfold kind? at kind
          simp only [bind, Except.bind]
          rcases newNode : new.get? directory with _ | _ | _ <;>
            rcases oldNode : old.get? directory with _ | _ | _ <;>
            simp_all [Node.isDirectory]

/-- Where a file may be written, or why there is no such place, is a matter of the kinds on the way of
its path. -/
theorem writable_congr (kinds : ∀ place ∈ way path, new.kind? place = old.kind? place) :
    new.writable path = old.writable path := by
  unfold writable
  rw [lastStep_congr kinds]
  cases steps : old.lastStep path with
  | error error => rfl
  | ok last =>
      obtain ⟨directory, name⟩ := last
      by_cases isName : IsName name
      · have kind := kinds _ (mem_way_of_lastStep steps isName)
        unfold kind? at kind
        simp only [bind, Except.bind]
        rcases newNode : new.get? (directory ++ [name]) with _ | _ | _ <;>
          rcases oldNode : old.get? (directory ++ [name]) with _ | _ | _ <;>
          simp_all [Node.isDirectory]
      · have notName := not_isName_iff.mp isName
        simp only [bind, Except.bind, throw, throwThe, MonadExceptOf.throw]
        rw [if_pos (by rcases notName with rfl | rfl <;> simp),
          if_pos (by rcases notName with rfl | rfl <;> simp)]

/-! ## Backups beside their files -/

/-- A walk to a directory passes directories only. -/
theorem get?_of_mem_scanl {segments : List Text} {final : Location}
    (walks : tree.walk location segments = .ok final) (ends : tree.get? final = some .directory) :
    ∀ place ∈ segments.scanl move location, tree.get? place = some .directory := by
  induction segments generalizing location with
  | nil =>
      cases walks
      intro place member
      rw [List.scanl_nil, List.mem_singleton] at member
      rw [member]
      exact ends
  | cons segment segments ih =>
      obtain ⟨next, steps, follows⟩ := walk_cons_eq_ok_iff.mp walks
      obtain ⟨isDirectory, rfl, _⟩ := step_eq_ok_iff.mp steps
      rw [List.scanl_cons, List.forall_mem_cons]
      exact ⟨isDirectory, ih follows⟩

/-- The location with a suffix at the end of its last name. -/
def beside (location : Location) (suffix : Text) : Location :=
  location.dropLast ++ [location.getLastD [] ++ suffix]

theorem isName_append {name : Text} (isName : IsName name) (notNil : name ≠ []) (suffix : Text) :
    IsName (name ++ suffix) := by
  obtain ⟨notDot, notUp⟩ := isName
  rcases name with _ | ⟨c, _ | ⟨d, rest⟩⟩
  · exact (notNil rfl).elim
  · have other : c ≠ '.' := by
      rintro rfl
      exact notDot rfl
    exact ⟨fun same => other (List.cons.inj same).1, fun same => other (List.cons.inj same).1⟩
  · refine ⟨nofun, fun same => ?_⟩
    simp only [stepUp, List.cons_append, List.cons.injEq, List.append_eq_nil_iff] at same
    obtain ⟨rfl, rfl, rfl, _⟩ := same
    exact notUp rfl

/-- Something that is no directory is on the way to a backup without a step of its own only if it is
the backup. -/
theorem eq_beside_of_mem_way {suffix : Text} (noSlash : '/' ∉ suffix)
    (writes : tree.writable path = .ok location) {place : Location}
    (onWay : place ∈ way (path.backup suffix)) (other : tree.get? place ≠ some .directory) :
    place = beside location suffix := by
  obtain ⟨directory, name, lastStep, isName, noEnd, _, rfl, _⟩ := writable_eq_ok_iff.mp writes
  obtain ⟨usable, walks, isDirectory, _⟩ := lastStep_eq_ok_iff.mp lastStep
  have split := segments_of_lastStep lastStep isName
  have notNil : path ≠ [] := by
    rintro rfl
    cases usable
  have extended : Path.segments (path.backup suffix) = _ :=
    Path.segments_append notNil (by simpa [endsWithSlash] using noEnd) noSlash split
  have starts : start (path.backup suffix) = start path := by
    cases path with
    | nil => exact (notNil rfl).elim
    | cons c path => rfl
  have hasName : name ≠ [] := by
    have isSegment : name ∈ Path.segments path := by
      rw [split]
      exact List.mem_append_right _ List.mem_cons_self
    exact (Path.mem_segments.mp isSegment).2
  have stillName := isName_append isName hasName suffix
  rw [way, extended, starts, List.scanl_append, ← walk_eq_foldl walks] at onWay
  rcases List.mem_append.mp onWay with before | last
  · exact (other (get?_of_mem_scanl walks isDirectory place before)).elim
  · rw [List.scanl_cons, List.scanl_nil, List.tail_cons, List.mem_singleton,
      move_name stillName] at last
    rw [last, beside, List.dropLast_concat, List.getLastD_concat]

/-- Files beside which the same backup stands are one. -/
theorem beside_injective {first second : Location} {suffix : Text} (notNil : first ≠ [])
    (notNil' : second ≠ []) (same : beside first suffix = beside second suffix) :
    first = second := by
  obtain ⟨front, last, rfl⟩ := (List.eq_nil_or_concat first).resolve_left notNil
  obtain ⟨front', last', rfl⟩ := (List.eq_nil_or_concat second).resolve_left notNil'
  simp only [List.concat_eq_append, beside, List.dropLast_concat, List.getLastD_concat] at same ⊢
  obtain ⟨fronts, lasts⟩ := List.append_inj' same rfl
  rw [fronts, List.append_cancel_right (List.singleton_inj.mp lasts)]

/-! ## Reading -/

theorem readDocument_eq (tree : FileTree) (path : Path) :
    tree.readDocument path =
      match tree.find path with
      | .ok (_, .file content) =>
        match Text.decode? content with
        | some text => .ok text
        | none => .error (.system .notText)
      | .ok (_, .directory) => .error (.system .isDirectory)
      | .error _ => .error (.notFound path) := by
  unfold readDocument contentAt has
  rcases tree.find path with _ | ⟨_, _ | _⟩ <;> rfl

/-- What is read is a matter of the directories and of what is in the place of the file. -/
theorem readDocument_congr (same : SameDirectories old new)
    (agrees : ∀ location, old.writable path = .ok location → new.get? location = old.get? location) :
    new.readDocument path = old.readDocument path := by
  rw [readDocument_eq, readDocument_eq]
  rcases found : old.find path with error | ⟨location, content | _⟩
  · rcases found' : new.find path with _ | ⟨location, content | _⟩
    · rfl
    · obtain ⟨writes, isFile⟩ := find_eq_file_iff.mp found'
      have writes := same.symm.writable writes
      rw [agrees location writes] at isFile
      rw [find_eq_file_iff.mpr ⟨writes, isFile⟩] at found
      cases found
    · rw [same.symm.find found'] at found
      cases found
  · obtain ⟨writes, isFile⟩ := find_eq_file_iff.mp found
    rw [← agrees location writes] at isFile
    rw [find_eq_file_iff.mpr ⟨same.writable writes, isFile⟩]
  · rw [same.find found]

/-! ## Growing -/

/-- A tree has the same kinds of things, and where nothing was perhaps a file. -/
def Grows (targets : Location → Prop) (old new : FileTree) : Prop :=
  ∀ location, new.kind? location = old.kind? location ∨
    targets location ∧ old.kind? location = none ∧ new.kind? location = some false

theorem Grows.refl (targets : Location → Prop) (tree : FileTree) : Grows targets tree tree :=
  fun _ => .inl rfl

theorem Grows.trans {last : FileTree} (grows : Grows targets old new)
    (later : Grows targets new last) : Grows targets old last := by
  intro location
  rcases later location with same | ⟨isTarget, none, isFile⟩
  · rw [same]
    exact grows location
  · rcases grows location with same | ⟨_, _, isFile'⟩
    · exact .inr ⟨isTarget, same ▸ none, isFile⟩
    · rw [none] at isFile'
      cases isFile'

theorem Grows.mono {more : Location → Prop} (grows : Grows targets old new)
    (weaker : ∀ location, targets location → more location) : Grows more old new :=
  fun location => (grows location).imp id fun ⟨isTarget, rest⟩ => ⟨weaker _ isTarget, rest⟩

theorem Grows.sameDirectories (grows : Grows targets old new) : SameDirectories old new := by
  intro location
  rw [← kind?_eq_true_iff, ← kind?_eq_true_iff]
  rcases grows location with same | ⟨_, none, isFile⟩
  · rw [same]
  · simp [none, isFile]

/-- Files stay. -/
theorem Grows.kind?_eq_false (grows : Grows targets old new)
    (isFile : old.kind? location = some false) : new.kind? location = some false := by
  rcases grows location with same | ⟨_, _, isFile'⟩
  · rw [same, isFile]
  · exact isFile'

/-- A file in place of a file, or at a target. -/
theorem grows_set (other : tree.get? location ≠ some .directory)
    (allowed : targets location ∨ tree.kind? location = some false) (content : ByteArray) :
    Grows targets tree (tree.set location (.file content)) := by
  intro place
  have setKind : (tree.set location (.file content)).kind? place =
      if place = location then some false else tree.kind? place := by
    rw [kind?, get?_set (not_isAncestor_of_get? other)]
    split <;> rfl
  rw [setKind]
  by_cases same : place = location
  · subst same
    rw [if_pos rfl]
    rcases kind : tree.kind? place with _ | _ | _
    · rcases allowed with isTarget | isFile
      · exact .inr ⟨isTarget, rfl, rfl⟩
      · rw [kind] at isFile
        cases isFile
    · exact .inl rfl
    · exact (other (kind?_eq_true_iff.mp kind)).elim
  · rw [if_neg same]
    exact .inl rfl

end FileTree

end PlaybookRepair
