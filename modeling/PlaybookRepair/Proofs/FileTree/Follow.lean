import PlaybookRepair.FileTree

/-!
# Following paths

Where a path leads is a matter of the directories of a tree: a walk that ends in a directory passes
only through directories (`walk_of_sameDirectories`), and the place where a file may be written is
found in its directory (`writable_eq_ok_iff`). A path leads to a file exactly if the file stands at
the place where it would be written (`find_eq_file_iff`). So in trees with the same directories paths
lead to the same places, and a tree in which a file has been written has the same directories.
-/

namespace PlaybookRepair

namespace FileTree

variable {tree old new : FileTree} {location next : Location} {segment : Text}
  {segments : List Text}

/-! ## What is at a location -/

theorem get?_of_isAncestor (ancestor : isAncestor location) :
    tree.get? location = some .directory :=
  if_pos ancestor

theorem not_isAncestor_of_get? (other : tree.get? location ≠ some .directory) :
    isAncestor location = false :=
  Bool.eq_false_iff.mpr fun ancestor => other (get?_of_isAncestor ancestor)

theorem lookup_map_set (nodes : List (Location × Node)) (location other : Location) (node : Node) :
    (nodes.map fun entry => if entry.1 = location then (location, node) else entry).lookup other =
      if other = location then (nodes.lookup location).map fun _ => node
      else nodes.lookup other := by
  induction nodes with
  | nil => simp
  | cons entry nodes ih =>
      obtain ⟨key, old⟩ := entry
      rw [List.map_cons]
      by_cases isKey : key = location
      · subst isKey
        rw [if_pos rfl, List.lookup_cons, ih]
        by_cases same : other = key
        · subst same
          simp
        · simp [same, List.lookup_cons, beq_false_of_ne same]
      · rw [if_neg isKey, List.lookup_cons, List.lookup_cons, List.lookup_cons, ih,
          beq_false_of_ne (Ne.symm isKey)]
        by_cases same : other = location
        · subst same
          rw [beq_false_of_ne (Ne.symm isKey)]
        · simp only [same, ↓reduceIte]

theorem lookup_eq_none_of_not_any {nodes : List (Location × Node)} {location : Location}
    (absent : ¬ nodes.any (·.1 = location)) : nodes.lookup location = none := by
  rw [List.lookup_eq_none_iff]
  intro entry member
  simp only [List.any_eq_true, not_exists, not_and, decide_eq_true_eq] at absent
  simpa using Ne.symm (absent entry member)

/-- Something set at a location is there, and elsewhere the tree stays as it is. -/
theorem get?_set (notAncestor : isAncestor location = false) (node : Node) (other : Location) :
    (tree.set location node).get? other =
      if other = location then some node else tree.get? other := by
  unfold get?
  by_cases ancestor : isAncestor other
  · have apart : other ≠ location := by
      rintro rfl
      rw [notAncestor] at ancestor
      cases ancestor
    rw [if_pos ancestor, if_neg apart, if_pos ancestor]
  · rw [if_neg ancestor, if_neg ancestor]
    unfold set
    by_cases present : tree.nodes.any (·.1 = location)
    · rw [if_pos present, lookup_map_set]
      by_cases same : other = location
      · rw [if_pos same, if_pos same]
        cases found : tree.nodes.lookup location with
        | some _ => rfl
        | none =>
            rw [List.lookup_eq_none_iff] at found
            obtain ⟨entry, member, isKey⟩ := List.any_eq_true.mp present
            rw [decide_eq_true_eq] at isKey
            exact absurd (found entry member) (by simp [isKey])
      · rw [if_neg same, if_neg same]
    · rw [if_neg present, List.lookup_append]
      by_cases same : other = location
      · subst same
        simp [lookup_eq_none_of_not_any present]
      · simp [same, List.lookup_cons, beq_false_of_ne same]

/-- What is set last stays. -/
theorem set_set (location : Location) (first second : Node) :
    (tree.set location first).set location second = tree.set location second := by
  unfold set
  by_cases present : tree.nodes.any (·.1 = location)
  · have still : (tree.nodes.map fun entry =>
        if entry.1 = location then (location, first) else entry).any (·.1 = location) := by
      obtain ⟨entry, member, isKey⟩ := List.any_eq_true.mp present
      rw [decide_eq_true_eq] at isKey
      exact List.any_eq_true.mpr
        ⟨(location, first), List.mem_map.mpr ⟨entry, member, if_pos isKey⟩, by simp⟩
    rw [if_pos present, if_pos still, if_pos present, List.map_map]
    congr 2
    funext entry
    rw [Function.comp_apply]
    by_cases isKey : entry.1 = location
    · rw [if_pos isKey, if_pos rfl, if_pos isKey]
    · rw [if_neg isKey, if_neg isKey]
  · have others : tree.nodes.map (fun entry =>
        if entry.1 = location then (location, second) else entry) = tree.nodes := by
      refine (List.map_congr_left fun entry member => ?_).trans (List.map_id _)
      refine if_neg fun isKey => present ?_
      exact List.any_eq_true.mpr ⟨entry, member, decide_eq_true isKey⟩
    rw [if_neg present, if_neg present, if_pos (by simp), List.map_append, others]
    simp

/-! ## Steps -/

/-- Where a step from a location leads, if it can be taken. -/
def move (location : Location) (segment : Text) : Location :=
  if segment = ['.'] then location
  else if segment = stepUp then above location
  else location ++ [segment]

/-- Whether a segment is a name, and not a step to a directory that is known already. -/
def IsName (segment : Text) : Prop := segment ≠ ['.'] ∧ segment ≠ stepUp

theorem not_isName_iff : ¬ IsName segment ↔ segment = ['.'] ∨ segment = stepUp := by
  rw [IsName, Decidable.not_and_iff_not_or_not, Decidable.not_not, Decidable.not_not]

/-- A step starts from a directory; a step by a name needs something there. -/
theorem step_eq_ok_iff :
    tree.step location segment = .ok next ↔
      tree.get? location = some .directory ∧ next = move location segment ∧
        (IsName segment → byteCount segment ≤ longestName ∧ (tree.get? next).isSome) := by
  unfold step move IsName
  rcases found : tree.get? location with _ | _ | _
  · simp
  · simp
  · by_cases dot : segment = ['.']
    · subst dot
      simpa using eq_comm
    · by_cases up : segment = stepUp
      · subst up
        simpa [stepUp] using eq_comm
      · by_cases long : byteCount segment > longestName
        · simp [dot, up, long, Nat.not_le.mpr long]
        · have short := Nat.not_lt.mp long
          by_cases present : (tree.get? (location ++ [segment])).isSome
          · simp only [dot, up, long, present, short, ↓reduceIte, ne_eq, not_false_eq_true, and_self,
              true_and, forall_const, Except.ok.injEq]
            exact ⟨fun same => ⟨same.symm, same ▸ present⟩, fun ⟨same, _⟩ => same.symm⟩
          · simp only [dot, up, long, present, short, ↓reduceIte, ne_eq, not_false_eq_true, and_self,
              true_and, forall_const, Bool.false_eq_true, reduceCtorEq, false_iff, not_and]
            rintro rfl
            exact present

theorem walk_nil : tree.walk location [] = .ok location := rfl

theorem walk_cons_eq_ok_iff {final : Location} :
    tree.walk location (segment :: segments) = .ok final ↔
      ∃ next, tree.step location segment = .ok next ∧ tree.walk next segments = .ok final := by
  unfold walk
  rw [List.foldlM_cons]
  cases tree.step location segment with
  | error error => simp [bind, Except.bind]
  | ok next => simp [bind, Except.bind]

theorem walk_append_eq_ok_iff {first second : List Text} {final : Location} :
    tree.walk location (first ++ second) = .ok final ↔
      ∃ middle, tree.walk location first = .ok middle ∧ tree.walk middle second = .ok final := by
  induction first generalizing location with
  | nil => simp [walk_nil]
  | cons segment first ih =>
      simp only [List.cons_append, walk_cons_eq_ok_iff, ih]
      constructor
      · rintro ⟨next, steps, middle, walks, follows⟩
        exact ⟨middle, ⟨next, steps, walks⟩, follows⟩
      · rintro ⟨middle, ⟨next, steps, walks⟩, follows⟩
        exact ⟨next, steps, middle, walks, follows⟩

/-! ## Ways -/

/-- All that a location is below is a directory. -/
def HasWay (tree : FileTree) (location : Location) : Prop :=
  ∀ way, way <+: location → way ≠ location → tree.get? way = some .directory

theorem hasWay_of_isAncestor (ancestor : isAncestor location) : tree.HasWay location := by
  intro way isPrefix _
  refine get?_of_isAncestor ?_
  simp only [isAncestor, Bool.or_eq_true, decide_eq_true_eq, List.all_eq_true] at ancestor ⊢
  rcases ancestor with rfl | steps
  · rcases List.prefix_cons_iff.mp isPrefix with rfl | ⟨rest, rfl, isRest⟩
    · exact .inr nofun
    · rw [List.prefix_nil.mp isRest]
      exact .inl rfl
  · exact .inr fun segment member => steps segment (isPrefix.subset member)

theorem isAncestor_start (path : Path) : isAncestor (start path) := by
  unfold start
  split <;> rfl

/-- Above a directory there is a directory. -/
theorem HasWay.above (hasWay : tree.HasWay location) :
    tree.HasWay (above location) ∧ tree.get? (above location) = some .directory := by
  unfold FileTree.above
  split
  · have ancestor : isAncestor top := rfl
    exact ⟨hasWay_of_isAncestor ancestor, get?_of_isAncestor ancestor⟩
  · split
    · next steps =>
      have ancestor : isAncestor (stepUp :: location) := by
        simp only [isAncestor, List.all_cons, steps, decide_true, Bool.and_self, Bool.or_true]
      exact ⟨hasWay_of_isAncestor ancestor, get?_of_isAncestor ancestor⟩
    · next steps =>
      have shorter : location.dropLast.length < location.length := by
        cases location with
        | nil => exact (steps rfl).elim
        | cons => simp
      have apart {way : Location} (isPrefix : way <+: location.dropLast) : way ≠ location := by
        rintro rfl
        exact Nat.not_lt.mpr isPrefix.length_le shorter
      have onWay {way : Location} (isPrefix : way <+: location.dropLast) :
          tree.get? way = some .directory :=
        hasWay way (isPrefix.trans (List.dropLast_prefix location)) (apart isPrefix)
      exact ⟨fun way isPrefix _ => onWay isPrefix, onWay (List.prefix_refl _)⟩

theorem HasWay.step (hasWay : tree.HasWay location) (steps : tree.step location segment = .ok next) :
    tree.HasWay next := by
  obtain ⟨isDirectory, rfl, _⟩ := step_eq_ok_iff.mp steps
  unfold move
  split
  · exact hasWay
  · split
    · exact hasWay.above.1
    · intro way isPrefix apart
      have shorter : way <+: location :=
        (List.prefix_concat_iff.mp isPrefix).resolve_left apart
      by_cases same : way = location
      · rw [same]
        exact isDirectory
      · exact hasWay way shorter same

theorem HasWay.walk {final : Location} (hasWay : tree.HasWay location)
    (walks : tree.walk location segments = .ok final) : tree.HasWay final := by
  induction segments generalizing location with
  | nil =>
      cases walks
      exact hasWay
  | cons segment segments ih =>
      obtain ⟨next, steps, follows⟩ := walk_cons_eq_ok_iff.mp walks
      exact ih (hasWay.step steps) follows

/-- A step that leads to a file goes by its name. -/
theorem HasWay.isName_of_step (hasWay : tree.HasWay location)
    (steps : tree.step location segment = .ok next) (other : tree.get? next ≠ some .directory) :
    IsName segment := by
  obtain ⟨isDirectory, rfl, _⟩ := step_eq_ok_iff.mp steps
  constructor
  · rintro rfl
    exact other isDirectory
  · rintro rfl
    exact other hasWay.above.2

theorem move_name (isName : IsName segment) : move location segment = location ++ [segment] := by
  rw [move, if_neg isName.1, if_neg isName.2]

/-! ## Trees with the same directories -/

/-- A walk that ends in a directory starts in one. -/
theorem get?_of_walk {final : Location} (walks : tree.walk location segments = .ok final)
    (ends : tree.get? final = some .directory) : tree.get? location = some .directory := by
  cases segments with
  | nil =>
      cases walks
      exact ends
  | cons segment segments =>
      obtain ⟨next, steps, _⟩ := walk_cons_eq_ok_iff.mp walks
      exact (step_eq_ok_iff.mp steps).1

/-- The trees have directories at the same locations. -/
def SameDirectories (old new : FileTree) : Prop :=
  ∀ location, new.get? location = some .directory ↔ old.get? location = some .directory

theorem SameDirectories.refl (tree : FileTree) : SameDirectories tree tree := fun _ => Iff.rfl

theorem SameDirectories.symm (same : SameDirectories old new) : SameDirectories new old :=
  fun location => (same location).symm

theorem SameDirectories.trans {last : FileTree} (same : SameDirectories old new)
    (later : SameDirectories new last) : SameDirectories old last :=
  fun location => (later location).trans (same location)

/-- A file in place of a file, or where nothing is, leaves the directories as they are. -/
theorem sameDirectories_set (other : tree.get? location ≠ some .directory) (content : ByteArray) :
    SameDirectories tree (tree.set location (.file content)) := by
  intro place
  rw [get?_set (not_isAncestor_of_get? other)]
  split
  · next same =>
    rw [same]
    simp [other]
  · exact Iff.rfl

/-- A walk to a directory passes through directories only, so it leads to the same place in every
tree that has them. -/
theorem SameDirectories.walk (same : SameDirectories old new) {final : Location}
    (walks : old.walk location segments = .ok final) (ends : old.get? final = some .directory) :
    new.walk location segments = .ok final := by
  induction segments generalizing location with
  | nil =>
      cases walks
      rfl
  | cons segment segments ih =>
      obtain ⟨next, steps, follows⟩ := walk_cons_eq_ok_iff.mp walks
      obtain ⟨isDirectory, isNext, named⟩ := step_eq_ok_iff.mp steps
      have stillDirectory := (same next).mpr (get?_of_walk follows ends)
      refine walk_cons_eq_ok_iff.mpr ⟨next, ?_, ih follows⟩
      exact step_eq_ok_iff.mpr ⟨(same location).mpr isDirectory, isNext,
        fun isName => ⟨(named isName).1, by rw [stillDirectory]; rfl⟩⟩

/-! ## What a path leads to -/

variable {path : Path} {node : Node} {content : ByteArray} {directory : Location} {name : Text}

/-- The steps of a path; after a slash at the end a directory is entered. -/
def pathSteps (path : Path) : List Text :=
  Path.segments path ++ if endsWithSlash path then [['.']] else []

theorem find_eq_ok_iff :
    tree.find path = .ok (location, node) ↔
      unusable? path = none ∧ tree.walk (start path) (pathSteps path) = .ok location ∧
        tree.get? location = some node := by
  unfold find
  cases unusable? path with
  | some error => simp [throw, throwThe, MonadExceptOf.throw, bind, Except.bind]
  | none =>
      change (tree.walk (start path) (pathSteps path) >>= fun _ => _) = _ ↔ _
      cases tree.walk (start path) (pathSteps path) with
      | error error => simp [bind, Except.bind]
      | ok final =>
          simp only [bind, Except.bind]
          cases found : tree.get? final with
          | none =>
              simp only [reduceCtorEq, Except.ok.injEq, true_and, false_iff, not_and]
              rintro rfl
              rw [found]
              exact (Option.some_ne_none _).symm
          | some other =>
              simp only [Except.ok.injEq, Prod.mk.injEq, true_and]
              constructor
              · rintro ⟨rfl, rfl⟩
                exact ⟨rfl, found⟩
              · rintro ⟨rfl, same⟩
                rw [found] at same
                exact ⟨rfl, Option.some.inj same⟩

theorem lastStep_eq_ok_iff :
    tree.lastStep path = .ok (directory, name) ↔
      unusable? path = none ∧ tree.walk (start path) (Path.segments path).dropLast = .ok directory ∧
        tree.get? directory = some .directory ∧ name = (Path.segments path).getLastD ['.'] := by
  unfold lastStep
  cases unusable? path with
  | some error => simp [throw, throwThe, MonadExceptOf.throw, bind, Except.bind]
  | none =>
      change (tree.walk (start path) (Path.segments path).dropLast >>= fun _ => _) = _ ↔ _
      cases tree.walk (start path) (Path.segments path).dropLast with
      | error error => simp [bind, Except.bind]
      | ok final =>
          simp only [bind, Except.bind]
          rcases found : tree.get? final with _ | _ | _
          · simp only [reduceCtorEq, Except.ok.injEq, true_and, false_iff, not_and]
            rintro rfl
            simp [found]
          · simp only [reduceCtorEq, Except.ok.injEq, true_and, false_iff, not_and]
            rintro rfl
            simp [found]
          · simp only [Except.ok.injEq, Prod.mk.injEq, true_and]
            constructor
            · rintro ⟨rfl, rfl⟩
              exact ⟨rfl, found, rfl⟩
            · rintro ⟨rfl, _, rfl⟩
              exact ⟨rfl, rfl⟩

/-- A file is written under the last name of a path, in the directory where that step is taken, unless
there is a directory of that name. -/
theorem writable_eq_ok_iff :
    tree.writable path = .ok location ↔
      ∃ directory name, tree.lastStep path = .ok (directory, name) ∧ IsName name ∧
        endsWithSlash path = false ∧ byteCount name ≤ longestName ∧
        location = directory ++ [name] ∧ tree.get? location ≠ some .directory := by
  unfold writable
  cases steps : tree.lastStep path with
  | error error => simp [bind, Except.bind]
  | ok last =>
      obtain ⟨directory, name⟩ := last
      by_cases isName : IsName name
      · cases slash : endsWithSlash path with
        | true => simp [bind, Except.bind, throw, throwThe, MonadExceptOf.throw]
        | false =>
            by_cases long : byteCount name > longestName
            · simp [bind, Except.bind, throw, throwThe, MonadExceptOf.throw, isName.1, isName.2, long,
                Nat.not_le.mpr long]
            · simp only [bind, Except.bind, isName.1, isName.2, long, decide_false,
                Bool.or_false, Bool.false_eq_true, ↓reduceIte, Except.ok.injEq, Prod.mk.injEq,
                true_and]
              constructor
              · intro found
                split at found
                · cases found
                · next other =>
                  cases found
                  exact ⟨directory, name, ⟨rfl, rfl⟩, isName, Nat.not_lt.mp long, rfl, other⟩
              · rintro ⟨_, _, ⟨rfl, rfl⟩, _, _, rfl, other⟩
                split
                · next isDirectory => exact (other isDirectory).elim
                · rfl
      · have notName := not_isName_iff.mp isName
        simp only [bind, Except.bind, throw, throwThe, MonadExceptOf.throw, Except.ok.injEq,
          Prod.mk.injEq]
        rw [if_pos (by rcases notName with rfl | rfl <;> simp)]
        simp only [reduceCtorEq, false_iff, not_exists, not_and, and_imp]
        rintro _ _ rfl rfl named
        exact (isName named).elim

/-- A file is not written in the place of a directory. -/
theorem other_of_writable (writes : tree.writable path = .ok location) :
    tree.get? location ≠ some .directory := by
  obtain ⟨_, _, _, _, _, _, _, other⟩ := writable_eq_ok_iff.mp writes
  exact other

theorem ne_nil_of_writable (writes : tree.writable path = .ok location) : location ≠ [] := by
  obtain ⟨_, _, _, _, _, _, rfl, _⟩ := writable_eq_ok_iff.mp writes
  exact List.concat_ne_nil _ _

/-- The last step of a path that ends with a name. -/
theorem lastStep_of_segments {front : List Text} (split : Path.segments path = front ++ [name])
    (usable : unusable? path = none) (walks : tree.walk (start path) front = .ok directory)
    (isDirectory : tree.get? directory = some .directory) :
    tree.lastStep path = .ok (directory, name) := by
  refine lastStep_eq_ok_iff.mpr ⟨usable, ?_, isDirectory, ?_⟩
  · rw [split, List.dropLast_concat]
    exact walks
  · rw [split, List.getLastD_concat]

/-- A name is the last segment of the path that it is the last step of. -/
theorem segments_of_lastStep (steps : tree.lastStep path = .ok (directory, name))
    (isName : IsName name) : Path.segments path = (Path.segments path).dropLast ++ [name] := by
  obtain ⟨_, _, _, isLast⟩ := lastStep_eq_ok_iff.mp steps
  rcases List.eq_nil_or_concat (Path.segments path) with none | ⟨front, last, split⟩
  · rw [none] at isLast
    exact (isName.1 isLast).elim
  · rw [List.concat_eq_append] at split
    rw [split, List.getLastD_concat] at isLast
    rw [split, List.dropLast_concat, isLast]

/-- **Files.** A path leads to a file exactly if the file stands where it would be written. -/
theorem find_eq_file_iff :
    tree.find path = .ok (location, .file content) ↔
      tree.writable path = .ok location ∧ tree.get? location = some (.file content) := by
  rw [find_eq_ok_iff, writable_eq_ok_iff]
  constructor
  · rintro ⟨usable, walks, found⟩
    have other : tree.get? location ≠ some .directory := by
      rw [found]
      nofun
    have hasWay : tree.HasWay (start path) := hasWay_of_isAncestor (isAncestor_start path)
    rcases List.eq_nil_or_concat (pathSteps path) with none | ⟨front, name, split⟩
    · rw [none] at walks
      cases walks
      exact (other (get?_of_isAncestor (isAncestor_start path))).elim
    · rw [List.concat_eq_append] at split
      rw [split] at walks
      obtain ⟨directory, walks, last⟩ := walk_append_eq_ok_iff.mp walks
      obtain ⟨_, steps, ends⟩ := walk_cons_eq_ok_iff.mp last
      cases ends
      have isName := (hasWay.walk walks).isName_of_step steps other
      obtain ⟨isDirectory, isNext, named⟩ := step_eq_ok_iff.mp steps
      have noSlash : endsWithSlash path = false := by
        cases slash : endsWithSlash path with
        | false => rfl
        | true =>
            rw [pathSteps, slash, if_pos rfl] at split
            exact (isName.1 (List.singleton_inj.mp (List.append_inj' split rfl).2).symm).elim
      rw [pathSteps, noSlash, if_neg (by decide), List.append_nil] at split
      exact ⟨⟨directory, name, lastStep_of_segments split usable walks isDirectory, isName, noSlash,
        (named isName).1, isNext.trans (move_name isName), other⟩, found⟩
  · rintro ⟨⟨directory, name, lastStep, isName, noSlash, short, rfl, _⟩, found⟩
    obtain ⟨usable, walks, isDirectory, _⟩ := lastStep_eq_ok_iff.mp lastStep
    refine ⟨usable, ?_, found⟩
    have split : pathSteps path = (Path.segments path).dropLast ++ [name] := by
      rw [pathSteps, noSlash, if_neg (by decide), List.append_nil]
      exact segments_of_lastStep lastStep isName
    rw [split, walk_append_eq_ok_iff]
    refine ⟨directory, walks, ?_⟩
    rw [walk_cons_eq_ok_iff]
    refine ⟨directory ++ [name], ?_, rfl⟩
    exact step_eq_ok_iff.mpr ⟨isDirectory, (move_name isName).symm, fun _ => ⟨short, by
      rw [found]
      rfl⟩⟩

/-- Where files are written is a matter of the directories. -/
theorem SameDirectories.writable (same : SameDirectories old new)
    (writes : old.writable path = .ok location) : new.writable path = .ok location := by
  obtain ⟨directory, name, lastStep, isName, noSlash, short, rfl, other⟩ :=
    writable_eq_ok_iff.mp writes
  obtain ⟨usable, walks, isDirectory, isLast⟩ := lastStep_eq_ok_iff.mp lastStep
  refine writable_eq_ok_iff.mpr ⟨directory, name, ?_, isName, noSlash, short, rfl,
    mt (same _).mp other⟩
  exact lastStep_eq_ok_iff.mpr
    ⟨usable, same.walk walks isDirectory, (same directory).mpr isDirectory, isLast⟩

/-- Which paths lead to directories is a matter of the directories. -/
theorem SameDirectories.find (same : SameDirectories old new)
    (found : old.find path = .ok (location, .directory)) :
    new.find path = .ok (location, .directory) := by
  obtain ⟨usable, walks, isDirectory⟩ := find_eq_ok_iff.mp found
  exact find_eq_ok_iff.mpr ⟨usable, same.walk walks isDirectory, (same location).mpr isDirectory⟩

end FileTree

end PlaybookRepair
