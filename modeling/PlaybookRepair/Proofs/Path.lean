import Mathlib.Algebra.GroupWithZero.Nat
import PlaybookRepair.Proofs.FileTree.Follow
import PlaybookRepair.Proofs.Text.Lines

/-!
# The directory of a path

The components of a path without the last one are written as a path of their own. It leads to the
directory in which the last step of the path is taken (`find_parent`): single dots and repeated
slashes, which it is without, lead nowhere.
-/

namespace PlaybookRepair

namespace Text

theorem pieces_ne_nil (mark : Char) (text : Text) : pieces mark text ≠ [] := by
  fun_induction pieces mark text <;> simp_all

/-- No piece holds the mark. -/
theorem not_mem_of_mem_pieces {mark : Char} {text piece : Text} (member : piece ∈ pieces mark text) :
    mark ∉ piece := by
  fun_induction pieces mark text generalizing piece with
  | case1 =>
      rw [List.mem_singleton.mp member]
      exact List.not_mem_nil
  | case2 rest ih =>
      rcases List.mem_cons.mp member with rfl | later
      · exact List.not_mem_nil
      · exact ih later
  | case3 c rest other none => exact (pieces_ne_nil mark rest none).elim
  | case4 c rest other first more found ih =>
      rw [found] at ih
      rcases List.mem_cons.mp member with rfl | later
      · rw [List.mem_cons, not_or]
        exact ⟨Ne.symm other, ih List.mem_cons_self⟩
      · exact ih (List.mem_cons_of_mem _ later)

/-- A text is its pieces, joined by the mark. -/
theorem join_pieces (mark : Char) (text : Text) : join [mark] (pieces mark text) = text := by
  fun_induction pieces mark text with
  | case1 => rfl
  | case2 rest ih =>
      obtain ⟨piece, more, split⟩ := List.exists_cons_of_ne_nil (pieces_ne_nil mark rest)
      rw [split] at ih ⊢
      rw [join, ih]
      · rfl
      · nofun
  | case3 c rest other none => exact (pieces_ne_nil mark rest none).elim
  | case4 c rest other first more found ih =>
      rw [found] at ih
      rw [← ih]
      cases more <;> rfl

/-- A text without the mark is one piece. -/
theorem pieces_unmarked {mark : Char} {text : Text} (unmarked : mark ∉ text) :
    pieces mark text = [text] := by
  induction text with
  | nil => rfl
  | cons c text ih =>
      rw [List.mem_cons, not_or] at unmarked
      rw [pieces, if_neg (Ne.symm unmarked.1), ih unmarked.2]

/-- What is put behind a text becomes part of its last piece, which is empty only at a mark. -/
theorem pieces_append {mark : Char} {suffix : Text} (unmarked : mark ∉ suffix) (text : Text) :
    ∃ front last, pieces mark text = front ++ [last] ∧
      pieces mark (text ++ suffix) = front ++ [last ++ suffix] ∧
      (last = [] → text = [] ∨ text.getLast? = some mark) := by
  induction text with
  | nil => exact ⟨[], [], rfl, pieces_unmarked unmarked, fun _ => .inl rfl⟩
  | cons c text ih =>
      obtain ⟨front, last, isPieces, extended, ends⟩ := ih
      have atEnd (none : last = []) : text = [] ∨ (c :: text).getLast? = some mark := by
        refine (ends none).imp id fun atMark => ?_
        rw [List.getLast?_cons, atMark]
        rfl
      by_cases isMark : c = mark
      · refine ⟨[] :: front, last, ?_, ?_, fun none => .inr ?_⟩
        · rw [pieces, if_pos isMark, isPieces]
          rfl
        · rw [List.cons_append, pieces, if_pos isMark, extended]
          rfl
        · rcases atEnd none with rfl | atMark
          · rw [isMark]
            rfl
          · exact atMark
      · cases front with
        | nil =>
            refine ⟨[], c :: last, ?_, ?_, fun none => absurd none (List.cons_ne_nil c last)⟩
            · rw [pieces, if_neg isMark, isPieces]
              rfl
            · rw [List.cons_append, pieces, if_neg isMark, extended]
              rfl
        | cons first front =>
            refine ⟨(c :: first) :: front, last, ?_, ?_, fun none => .inr ?_⟩
            · rw [pieces, if_neg isMark, isPieces]
              rfl
            · rw [List.cons_append, pieces, if_neg isMark, extended]
              rfl
            · rcases atEnd none with rfl | atMark
              · cases front <;> cases isPieces
              · exact atMark

/-- Texts without the mark are found again as the pieces of what they are joined to. -/
theorem pieces_join {mark : Char} {texts : List Text} (notNil : texts ≠ [])
    (unmarked : ∀ text ∈ texts, mark ∉ text) : pieces mark (join [mark] texts) = texts := by
  induction texts with
  | nil => exact (notNil rfl).elim
  | cons text texts ih =>
      have own := unmarked text List.mem_cons_self
      cases texts with
      | nil =>
          exact pieces_unmarked own
      | cons next rest =>
          rw [join, List.append_assoc, List.singleton_append, pieces_append_cons own,
            ih nofun fun other member => unmarked other (List.mem_cons_of_mem _ member)]
          nofun

/-- What is joined consists of the texts and the marks between them. -/
theorem mem_join {mark c : Char} {texts : List Text} (member : c ∈ join [mark] texts) :
    c = mark ∨ ∃ text ∈ texts, c ∈ text := by
  fun_induction join [mark] texts with
  | case1 => cases member
  | case2 text => exact .inr ⟨text, List.mem_cons_self, member⟩
  | case3 text rest _ ih =>
      rw [List.append_assoc, List.mem_append, List.mem_append, List.mem_singleton] at member
      rcases member with own | isMark | later
      · exact .inr ⟨text, List.mem_cons_self, own⟩
      · exact .inl isMark
      · exact (ih later).imp id fun ⟨other, isOther, inside⟩ =>
          ⟨other, List.mem_cons_of_mem _ isOther, inside⟩

/-- A text is part of what it is joined to. -/
theorem subset_join {mark : Char} {texts : List Text} {text : Text} (member : text ∈ texts) :
    text ⊆ join [mark] texts := by
  fun_induction join [mark] texts with
  | case1 => cases member
  | case2 =>
      rw [List.mem_singleton.mp member]
      exact List.Subset.refl _
  | case3 first rest _ ih =>
      rcases List.mem_cons.mp member with rfl | later
      · rw [List.append_assoc]
        exact List.subset_append_left _ _
      · exact fun c inside => List.mem_append_right _ (ih later inside)

end Text

namespace FileTree

theorem byteCount_append (first second : Text) :
    byteCount (first ++ second) = byteCount first + byteCount second := by
  rw [byteCount, String.ofList_append, String.utf8ByteSize_append]
  rfl

/-- Each text counts with one slash; there is one slash less than texts. -/
theorem byteCount_join (texts : List Text) :
    byteCount (Text.join ['/'] texts) = (texts.map (byteCount · + 1)).sum - 1 := by
  have slash : byteCount ['/'] = 1 := by decide
  fun_induction Text.join ['/'] texts with
  | case1 => rfl
  | case2 text => simp
  | case3 text rest notNil ih =>
      obtain ⟨next, more, rfl⟩ := List.exists_cons_of_ne_nil notNil
      rw [byteCount_append, byteCount_append, ih, slash]
      simp only [List.map_cons, List.sum_cons]
      omega

/-- Fewer texts are joined to a shorter one. -/
theorem byteCount_join_le {some all : List Text} (sublist : some.Sublist all) :
    byteCount (Text.join ['/'] some) ≤ byteCount (Text.join ['/'] all) := by
  have sums : (some.map (byteCount · + 1)).sum ≤ (all.map (byteCount · + 1)).sum := by
    induction sublist with
    | slnil => exact Nat.le_refl _
    | cons text _ ih => exact Nat.le_trans ih (Nat.le_add_left _ _)
    | cons_cons text _ ih => exact Nat.add_le_add_left ih _
  rw [byteCount_join, byteCount_join]
  omega

end FileTree

namespace Path

variable {path : Path} {front : List Text} {name : Text}

/-- The component with which a path starts before its steps. -/
def origin (path : Path) : List Component :=
  if isAbsolute path then [.top]
  else if (Text.pieces '/' path).head? = some ['.'] then [.here]
  else []

theorem components_eq (path : Path) :
    components path = origin path ++ (segments path).filterMap componentOf? := by
  unfold components origin
  split
  · rfl
  · split <;> rfl

/-- The components of segments are those that are no single dots. -/
theorem text_componentOf (segments : List Text) :
    (segments.filterMap componentOf?).map Component.text = segments.filter (· ≠ ['.']) := by
  induction segments with
  | nil => rfl
  | cons segment rest ih =>
      by_cases dot : segment = ['.']
      · rw [List.filterMap_cons_none (by rw [componentOf?, if_pos dot]), ih,
          List.filter_cons_of_neg (by simp [dot])]
      · have named : ∃ component, componentOf? segment = some component ∧ component.text = segment := by
          rw [componentOf?, if_neg dot]
          split
          · next up => exact ⟨.up, rfl, up.symm⟩
          · exact ⟨.name segment, rfl, rfl⟩
        obtain ⟨component, isComponent, text⟩ := named
        rw [List.filterMap_cons_some isComponent, List.map_cons, ih, text,
          List.filter_cons_of_pos (by simpa using dot)]

theorem components_dropLast (split : segments path = front ++ [name])
    (isName : FileTree.IsName name) :
    (components path).dropLast = origin path ++ front.filterMap componentOf? := by
  have last : componentOf? name = some (.name name) := by
    unfold componentOf?
    exact (if_neg isName.1).trans (if_neg isName.2)
  rw [components_eq, split, List.filterMap_append, List.filterMap_cons_some last, List.filterMap_nil,
    ← List.append_assoc, List.dropLast_concat]

theorem mem_segments {segment : Text} :
    segment ∈ segments path ↔ segment ∈ Text.pieces '/' path ∧ segment ≠ [] := by
  rw [segments, List.mem_filter]
  simp

/-- The texts of the components before the last one are among the pieces of the path. -/
theorem parent_texts (split : segments path = front ++ [name]) :
    ((origin path).map Component.text ++ front.filter (· ≠ ['.'])).Sublist (Text.pieces '/' path) := by
  obtain ⟨first, pieces, isPieces⟩ := List.exists_cons_of_ne_nil (Text.pieces_ne_nil '/' path)
  have rest {texts front : List Text} (same : texts.filter (!·.isEmpty) = front ++ [name]) :
      (front.filter (· ≠ ['.'])).Sublist texts := by
    have sublist := List.sublist_append_left front [name]
    rw [← same] at sublist
    exact List.filter_sublist.trans (sublist.trans List.filter_sublist)
  rw [segments, isPieces] at split
  rw [isPieces]
  unfold origin
  split
  · next absolute =>
    cases path with
    | nil => cases absolute
    | cons c path =>
        obtain rfl : c = '/' := by simpa [isAbsolute] using absolute
        rw [Text.pieces, if_pos rfl] at isPieces
        obtain ⟨rfl, rfl⟩ := List.cons.inj isPieces
        rw [List.filter_cons_of_neg (by decide)] at split
        exact (rest split).cons_cons []
  · split
    · next here =>
      rw [isPieces, List.head?_cons, Option.some_inj] at here
      subst here
      rw [List.filter_cons_of_pos (by decide)] at split
      cases front with
      | nil =>
          exact (List.nil_sublist pieces).cons_cons ['.']
      | cons segment front =>
          obtain ⟨rfl, after⟩ := List.cons.inj split
          rw [List.filter_cons_of_neg (by decide)]
          exact (rest after).cons_cons ['.']
    · exact rest split

/-- What is put behind a path that does not end with a slash becomes part of its last segment. -/
theorem segments_append {suffix : Text} (notNil : path ≠ []) (noSlash : path.getLast? ≠ some '/')
    (unmarked : '/' ∉ suffix) (split : segments path = front ++ [name]) :
    segments (path ++ suffix) = front ++ [name ++ suffix] := by
  obtain ⟨pieces, last, isPieces, extended, ends⟩ := Text.pieces_append unmarked path
  have hasLast : last ≠ [] := fun none => (ends none).elim notNil noSlash
  rw [segments, isPieces, List.filter_append, List.filter_cons_of_pos (by simpa using hasLast),
    List.filter_nil] at split
  obtain ⟨isFront, isLast⟩ := List.append_inj' split rfl
  obtain rfl := List.singleton_inj.mp isLast
  rw [segments, extended, List.filter_append, isFront, List.filter_cons_of_pos (by simp [hasLast]),
    List.filter_nil]

end Path

namespace FileTree

variable {tree : FileTree} {path : Path} {front : List Text} {name : Text} {directory : Location}

/-- Single dots lead nowhere. -/
theorem walk_filter {location final : Location} {segments : List Text}
    (walks : tree.walk location segments = .ok final) :
    tree.walk location (segments.filter (· ≠ ['.'])) = .ok final := by
  induction segments generalizing location with
  | nil => exact walks
  | cons segment segments ih =>
      obtain ⟨next, steps, follows⟩ := walk_cons_eq_ok_iff.mp walks
      by_cases dot : segment = ['.']
      · obtain ⟨_, rfl, _⟩ := step_eq_ok_iff.mp steps
        rw [move, if_pos dot] at follows
        rw [List.filter_cons_of_neg (by simp [dot])]
        exact ih follows
      · rw [List.filter_cons_of_pos (by simpa using dot)]
        exact walk_cons_eq_ok_iff.mpr ⟨next, steps, ih follows⟩

/-- A path that can be followed stays one if its pieces are joined without some of them. -/
theorem unusable?_join (usable : unusable? path = none) {texts : List Text}
    (sublist : texts.Sublist (Text.pieces '/' path)) (notNil : Text.join ['/'] texts ≠ []) :
    unusable? (Text.join ['/'] texts) = none := by
  have shorter := byteCount_join_le sublist
  rw [Text.join_pieces] at shorter
  unfold unusable? at usable ⊢
  split at usable
  · cases usable
  · next noNull =>
    split at usable
    · cases usable
    · split at usable
      · cases usable
      · next short =>
        rw [if_neg, if_neg, if_neg]
        · omega
        · simpa using notNil
        · rw [List.contains_iff_mem] at noNull ⊢
          intro member
          rcases Text.mem_join member with same | ⟨text, isText, inside⟩
          · exact absurd same (by decide)
          · have whole := @Text.subset_join '/' _ _ (sublist.subset isText) _ inside
            rw [Text.join_pieces] at whole
            exact noNull whole

/-- A path is absolute exactly if its first piece is empty. -/
theorem isAbsolute_iff : Path.isAbsolute path ↔ path ≠ [] ∧ (Text.pieces '/' path).head? = some [] := by
  cases path with
  | nil => simp [Path.isAbsolute]
  | cons c path =>
      rw [Text.pieces]
      split
      · next isSlash => simp [Path.isAbsolute, isSlash]
      · next other =>
        split <;> simp [Path.isAbsolute, other]

/-- A path leads to the directory that its segments lead to. -/
theorem find_of_walk (usable : unusable? path = none)
    (walks : tree.walk (start path) (Path.segments path) = .ok directory)
    (isDirectory : tree.get? directory = some .directory) :
    tree.find path = .ok (directory, .directory) := by
  refine find_eq_ok_iff.mpr ⟨usable, ?_, isDirectory⟩
  rw [pathSteps, walk_append_eq_ok_iff]
  refine ⟨directory, walks, ?_⟩
  split
  · refine walk_cons_eq_ok_iff.mpr ⟨directory, ?_, walk_nil⟩
    exact step_eq_ok_iff.mpr ⟨isDirectory, rfl, fun isName => (isName.1 rfl).elim⟩
  · exact walk_nil

/-- Some pieces of a path, joined, are followed piece by piece. -/
theorem find_join (usable : unusable? path = none) {texts : List Text}
    (sublist : texts.Sublist (Text.pieces '/' path)) (hasText : ∃ text ∈ texts, text ≠ [])
    (walks : tree.walk (if texts.head? = some [] then top else []) (texts.filter (!·.isEmpty)) =
      .ok directory)
    (isDirectory : tree.get? directory = some .directory) :
    tree.find (Text.join ['/'] texts) = .ok (directory, .directory) := by
  obtain ⟨text, isText, hasContent⟩ := hasText
  have notNil : Text.join ['/'] texts ≠ [] := fun none =>
    hasContent (List.subset_nil.mp (none ▸ @Text.subset_join '/' _ _ isText))
  have found : Text.pieces '/' (Text.join ['/'] texts) = texts :=
    Text.pieces_join (List.ne_nil_of_mem isText) fun other member =>
      Text.not_mem_of_mem_pieces (sublist.subset member)
  refine find_of_walk (unusable?_join usable sublist notNil) ?_ isDirectory
  have starts : start (Text.join ['/'] texts) = if texts.head? = some [] then top else [] := by
    have isAbsolute := @isAbsolute_iff (Text.join ['/'] texts)
    rw [found, and_iff_right notNil] at isAbsolute
    simp only [start, isAbsolute]
  rw [starts, Path.segments, found]
  exact walks

/-- **The directory of a path.** All components of a path but the last lead to the directory in which
the last step is taken. -/
theorem find_parent (split : Path.segments path = front ++ [name]) (isName : IsName name)
    (usable : unusable? path = none) (walks : tree.walk (start path) front = .ok directory)
    (isDirectory : tree.get? directory = some .directory)
    (notNil : (Path.components path).dropLast ≠ []) :
    tree.find (Path.ofComponents (Path.components path).dropLast) = .ok (directory, .directory) := by
  have filtered := walk_filter walks
  have sublist := Path.parent_texts split
  have components := Path.components_dropLast split isName
  have texts : (Path.components path).dropLast.map Path.Component.text =
      (Path.origin path).map Path.Component.text ++ front.filter (· ≠ ['.']) := by
    rw [components, List.map_append, Path.text_componentOf]
  rw [← texts] at sublist
  have notEmpty : ∀ text ∈ front.filter (· ≠ ['.']), text ≠ [] := by
    intro text member
    have isSegment : text ∈ Path.segments path := by
      rw [split]
      exact List.mem_append_left _ (List.mem_of_mem_filter member)
    exact (Path.mem_segments.mp isSegment).2
  have kept : (front.filter (· ≠ ['.'])).filter (!·.isEmpty) = front.filter (· ≠ ['.']) :=
    List.filter_eq_self.mpr fun text member => by simpa using notEmpty text member
  have alone : Path.isAbsolute path → front.filter (· ≠ ['.']) = [] →
      (Path.components path).dropLast = [.top] := by
    intro absolute none
    rw [← Path.text_componentOf, List.map_eq_nil_iff] at none
    rw [components, none, Path.origin, if_pos absolute, List.append_nil]
  generalize front.filter (· ≠ ['.']) = steps at filtered texts notEmpty kept alone
  generalize (Path.components path).dropLast = parent at texts sublist notNil alone
  unfold Path.ofComponents
  unfold Path.origin at texts
  unfold start at filtered
  by_cases absolute : Path.isAbsolute path
  · rw [if_pos absolute] at texts filtered
    cases steps with
    | nil =>
        cases filtered
        rw [if_pos (alone absolute rfl)]
        exact find_of_walk (by decide) walk_nil isDirectory
    | cons segment steps =>
        rw [if_neg (by rintro rfl; cases texts)]
        refine find_join usable sublist ⟨segment, ?_, notEmpty segment List.mem_cons_self⟩ ?_ isDirectory
        · rw [texts]
          exact .tail _ List.mem_cons_self
        · rw [texts, if_pos (by rfl), List.filter_append, kept]
          exact filtered
  · rw [if_neg absolute] at texts filtered
    by_cases here : (Text.pieces '/' path).head? = some ['.']
    · rw [if_pos here] at texts
      rw [if_neg (by rintro rfl; cases texts)]
      refine find_join usable sublist ⟨['.'], ?_, nofun⟩ ?_ isDirectory
      · rw [texts]
        exact List.mem_cons_self
      · rw [texts, if_neg (by nofun), List.filter_append, kept]
        exact walk_cons_eq_ok_iff.mpr
          ⟨[], step_eq_ok_iff.mpr ⟨rfl, rfl, fun isName => (isName.1 rfl).elim⟩, filtered⟩
    · rw [if_neg here] at texts
      rw [List.map_nil, List.nil_append] at texts
      rw [if_neg (by rintro rfl; exact notEmpty [] (texts ▸ List.mem_cons_self) rfl)]
      obtain ⟨segment, rest, isCons⟩ : ∃ segment rest, steps = segment :: rest :=
        List.exists_cons_of_ne_nil (by rw [← texts]; simpa using notNil)
      have first := notEmpty segment (isCons ▸ List.mem_cons_self)
      refine find_join usable sublist ⟨segment, ?_, first⟩ ?_ isDirectory
      · rw [texts, isCons]
        exact List.mem_cons_self
      · rw [texts, kept, if_neg]
        · exact filtered
        · rw [isCons, List.head?_cons, Option.some_inj]
          exact first

end FileTree

end PlaybookRepair
