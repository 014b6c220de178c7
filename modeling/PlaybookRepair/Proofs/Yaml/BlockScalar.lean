import PlaybookRepair.Proofs.Yaml.Scalar

/-!
# Block scalars by their lines

The text of a block scalar is put together from its lines: each is known by how far it stands right
of the indentation of the block and by what follows. So it does not depend on the column at which
the block stands, as long as its lines keep their distances from the indentation
(`readFrom_rows`, `valueFrom_indent`). The indentation is that of the first line with content, or
what the digit of the header makes it (`readHeader_eq`).
-/

namespace PlaybookRepair.Yaml.BlockScalar

/-! ## Headers -/

/-- The indicators of a header and what they mean: a chomping sign and an indentation digit in
either order. -/
inductive Indicators : Text → Header → Prop
  | none : Indicators [] {}
  | sign {sign : Char} {chomping : Chomping} (isSign : chompingOf? sign = some chomping) :
      Indicators [sign] { chomping }
  | digit {digit : Char} (isDigit : digit.isDigit) (notZero : digit ≠ '0') :
      Indicators [digit] { increment := some (digit.toNat - '0'.toNat) }
  | signDigit {sign digit : Char} {chomping : Chomping} (isSign : chompingOf? sign = some chomping)
      (isDigit : digit.isDigit) (notZero : digit ≠ '0') :
      Indicators [sign, digit] { chomping, increment := some (digit.toNat - '0'.toNat) }
  | digitSign {sign digit : Char} {chomping : Chomping} (isSign : chompingOf? sign = some chomping)
      (isDigit : digit.isDigit) (notZero : digit ≠ '0') :
      Indicators [digit, sign] { chomping, increment := some (digit.toNat - '0'.toNat) }

/-- What may stand between the indicators of a header and the end of its line: nothing, or a comment
after spaces and tabs. -/
structure IsRemark (gap comment : Text) : Prop where
  spaces : ∀ c ∈ gap, isSpace c
  unbroken : ∀ c ∈ comment, isBreak c = false
  starts : comment = [] ∧ gap = [] ∨ gap ≠ [] ∧ ∃ rest, comment = '#' :: rest

section

variable {gap comment : Text} (remark : IsRemark gap comment)
include remark

/-- A remark and the end of its line are passed over. -/
theorem IsRemark.skip (rest : Text) (mark : Mark) :
    ∃ mark', (Cursor.mk (gap ++ comment ++ '\n' :: rest) mark).skipSpaces.skipComment =
      ⟨'\n' :: rest, mark'⟩ := by
  have start : ∀ c, (comment ++ '\n' :: rest).head? = some c → isSpace c = false := by
    intro c first
    rcases remark.starts with ⟨rfl, _⟩ | ⟨_, text, rfl⟩ <;> cases first <;> rfl
  have skipped : (Cursor.mk (gap ++ comment ++ '\n' :: rest) mark).skipSpaces =
      ⟨comment ++ '\n' :: rest, mark.advance gap.length⟩ := by
    simp only [Cursor.skipSpaces, Cursor.span, List.append_assoc,
      List.takeWhile_append_of_pos remark.spaces, List.dropWhile_append_of_pos remark.spaces]
    cases text : comment ++ '\n' :: rest with
    | nil => simp at text
    | cons c more =>
        have notSpace := start c (by rw [text]; rfl)
        rw [List.takeWhile_cons_of_neg (by simp [notSpace]),
          List.dropWhile_cons_of_neg (by simp [notSpace]), List.append_nil]
  rw [skipped]
  rcases remark.starts with ⟨rfl, _⟩ | ⟨_, text, rfl⟩
  · exact ⟨_, rfl⟩
  · refine ⟨(mark.advance gap.length).advance ('#' :: text).length, ?_⟩
    have inside : ∀ c ∈ '#' :: text, (!isBreak c) = true := fun c member => by
      rw [remark.unbroken c member, Bool.not_false]
    rw [Cursor.skipComment, List.cons_append]
    simp only [Cursor.skipLine, Cursor.span]
    rw [← List.cons_append, List.takeWhile_append_of_pos inside,
      List.dropWhile_append_of_pos inside, List.takeWhile_cons_of_neg (by decide),
      List.dropWhile_cons_of_neg (by decide), List.append_nil]

/-- After the indicators neither a sign nor a digit comes. -/
theorem IsRemark.noIndicator (start : Mark) (rest : Text) (mark : Mark) :
    readChomping ⟨gap ++ comment ++ '\n' :: rest, mark⟩ =
        (none, ⟨gap ++ comment ++ '\n' :: rest, mark⟩) ∧
      readIncrement start ⟨gap ++ comment ++ '\n' :: rest, mark⟩ =
        .ok (none, ⟨gap ++ comment ++ '\n' :: rest, mark⟩) := by
  obtain ⟨c, more, text, isEither⟩ : ∃ c more, gap ++ comment ++ '\n' :: rest = c :: more ∧
      (c = '\n' ∨ c = ' ' ∨ c = '\t') := by
    rcases remark.starts with ⟨rfl, rfl⟩ | ⟨notEmpty, _⟩
    · exact ⟨_, _, rfl, .inl rfl⟩
    · cases gap with
      | nil => exact (notEmpty rfl).elim
      | cons c gap =>
          refine ⟨c, _, rfl, .inr ?_⟩
          simpa [isSpace] using remark.spaces c List.mem_cons_self
  rw [text]
  rcases isEither with rfl | rfl | rfl <;> exact ⟨rfl, rfl⟩

/-- **Headers.** A header is read as its indicators mean it, up to the next line. -/
theorem readHeader_eq {indicators : Text} {header : Header} (means : Indicators indicators header)
    (start : Mark) (rest : Text) (mark : Mark) :
    ∃ mark', mark'.column = 0 ∧
      readHeader start ⟨indicators ++ (gap ++ comment) ++ '\n' :: rest, mark⟩ =
        .ok (header, ⟨rest, mark'⟩) := by
  have final (mark : Mark) (result : Header) :
      ∃ mark', mark'.column = 0 ∧
        (let cursor := (Cursor.mk (gap ++ comment ++ '\n' :: rest) mark).skipSpaces.skipComment
          if atLineEnd cursor.rest then (pure (result, cursor.skipBreak) : Except SyntaxError _)
          else fail .blockScalar start .expectedLineEnd cursor.mark) =
          .ok (result, ⟨rest, mark'⟩) := by
    obtain ⟨mark', skipped⟩ := remark.skip rest mark
    exact ⟨mark'.newLine 1, rfl, by rw [skipped]; rfl⟩
  have noSign (mark : Mark) := (remark.noIndicator start rest mark).1
  have noDigit (mark : Mark) := (remark.noIndicator start rest mark).2
  have digitOf {digit : Char} (isDigit : digit.isDigit) (notZero : digit ≠ '0') (more : Text)
      (mark : Mark) : readIncrement start ⟨digit :: more, mark⟩ =
        .ok (some (digit.toNat - '0'.toNat), ⟨more, mark.advance 1⟩) := by
    rw [readIncrement]
    dsimp only
    rw [if_neg notZero, if_pos isDigit]
    rfl
  have signOf {sign : Char} {chomping : Chomping} (isSign : chompingOf? sign = some chomping)
      (more : Text) (mark : Mark) : readChomping ⟨sign :: more, mark⟩ =
        (some chomping, ⟨more, mark.advance 1⟩) := by
    rw [readChomping]
    dsimp only [List.head?_cons, Option.bind_some]
    rw [isSign]
    rfl
  have notSign {digit : Char} (isDigit : digit.isDigit) (more : Text) (mark : Mark) :
      readChomping ⟨digit :: more, mark⟩ = (none, ⟨digit :: more, mark⟩) := by
    have other : chompingOf? digit = none := by
      unfold chompingOf?
      rw [if_neg, if_neg]
      · rintro rfl
        cases isDigit
      · rintro rfl
        cases isDigit
    rw [readChomping]
    dsimp only [List.head?_cons, Option.bind_some]
    rw [other]
  unfold readHeader
  cases means with
  | none =>
      rw [List.nil_append, noSign]
      dsimp only
      rw [noDigit]
      exact final mark _
  | sign isSign =>
      rw [List.append_assoc, List.singleton_append, signOf isSign]
      dsimp only
      rw [noDigit]
      exact final _ _
  | digit isDigit notZero =>
      rw [List.append_assoc, List.singleton_append, notSign isDigit]
      dsimp only
      rw [digitOf isDigit notZero]
      dsimp only [bind, Except.bind]
      rw [noSign]
      exact final _ _
  | signDigit isSign isDigit notZero =>
      rw [List.append_assoc, List.cons_append, List.singleton_append, signOf isSign]
      dsimp only
      rw [digitOf isDigit notZero]
      exact final _ _
  | digitSign isSign isDigit notZero =>
      rw [List.append_assoc, List.cons_append, List.singleton_append, notSign isDigit]
      dsimp only
      rw [digitOf isDigit notZero]
      dsimp only [bind, Except.bind]
      rw [signOf isSign]
      exact final _ _

end

/-! ## Lines -/

/-- A line of a block scalar: how far it stands right of a column, and its text; a blank line has
none. -/
abbrev Row := Nat × Text

/-- A line as it stands in a block at a column. -/
def rowText (column : Nat) (row : Row) : Text :=
  if row.2.isEmpty then [] else List.replicate (column + row.1) ' ' ++ row.2

/-- The first character of a line within the indentation of its block. -/
def firstOf (extra : Nat) (c : Char) : Char := if extra = 0 then c else ' '

/-- What is known within a line whose text starts with the given character. -/
def State.within (indent : Nat) (first : Char) : State where
  indent := some indent
  inLine := true
  afterSpaced := isSpace first

/-- What is known after a line whose text starts with the given character. -/
def State.afterLine (state : State) (first : Char) : State where
  indent := state.indent
  lineBreak := ['\n']
  afterSpaced := isSpace first

/-- The text of a block scalar from a line on, its lines given by how far they stand right of the
indentation. -/
def valueFrom (place : Place) (state : State) : List Row → Text
  | [] => state.tail place
  | (_, []) :: rows => valueFrom place (state.afterBreak ['\n'] 0) rows
  | (extra, c :: text) :: rows =>
    let first := firstOf extra c
    state.separation place first ++ (List.replicate extra ' ' ++ c :: text) ++
      valueFrom place (state.afterLine first) rows

/-- The text of a block does not depend on its indentation. -/
theorem valueFrom_indent (place : Place) (rows : List Row) (state : State) (indent : Option Nat) :
    valueFrom place { state with indent } rows = valueFrom place state rows := by
  induction rows generalizing state with
  | nil => rfl
  | cons row rows ih =>
      obtain ⟨extra, _ | ⟨c, text⟩⟩ := row
      · rw [valueFrom, valueFrom, ← ih (state.afterBreak ['\n'] 0)]
        unfold State.afterBreak
        split <;> rfl
      · rw [valueFrom, valueFrom, ← ih (state.afterLine (firstOf extra c))]
        rfl

/-! ## Reading lines -/

variable (place : Place) {state : State} {column indent : Nat}

/-- Spaces within the indentation are passed over. -/
theorem readFrom_spaces (outside : state.inLine = false) (width : Nat) (rest : Text) (mark : Mark)
    (within : ∀ column, column < mark.column + width → state.withinIndent column) :
    readFrom place state (List.replicate width ' ' ++ rest) mark =
      readFrom place state rest (mark.advance width) := by
  induction width generalizing mark with
  | zero => rfl
  | succ width ih =>
      rw [List.replicate_succ, List.cons_append, readFrom]
      · rw [outside, within mark.column (by omega)]
        simp only [Bool.not_false, decide_true, Bool.and_self, ↓reduceIte]
        rw [ih (mark.advance 1) fun column less => within column (by
          rw [Mark.advance_column] at less
          omega), Mark.advance_advance, Nat.add_comm 1]
      · rintro _ ⟨⟩

/-- A line feed ends a line. -/
theorem readFrom_feed (rest : Text) (mark : Mark) :
    readFrom place state ('\n' :: rest) mark =
      readFrom place (state.afterBreak ['\n'] mark.column) rest (mark.newLine 1) := by
  rw [readFrom]
  · simp [isBreak, breakText]
  · rintro _ ⟨⟩

/-- The text of a line is read up to its end. -/
theorem readFrom_inLine (inside : state.inLine) {text : Text}
    (unbroken : ∀ c ∈ text, isBreak c = false) (rest : Text) (mark : Mark) :
    ∃ mark', mark'.column = 0 ∧
      readFrom place state (text ++ '\n' :: rest) mark =
        (readFrom place (state.afterBreak ['\n'] 0) rest mark').map fun result =>
          (text ++ result.1, result.2) := by
  induction text generalizing mark with
  | nil =>
      refine ⟨mark.newLine 1, rfl, ?_⟩
      have same : state.afterBreak ['\n'] mark.column = state.afterBreak ['\n'] 0 := by
        rw [State.afterBreak, State.afterBreak, if_pos inside, if_pos inside]
      rw [List.nil_append, readFrom_feed, same]
      cases readFrom place (state.afterBreak ['\n'] 0) rest (mark.newLine 1) <;> rfl
  | cons c text ih =>
      have notBreak := unbroken c List.mem_cons_self
      obtain ⟨mark', column, later⟩ := ih (fun d member => unbroken d (.tail c member))
        (mark.advance 1)
      refine ⟨mark', column, ?_⟩
      rw [List.cons_append, readFrom]
      · simp only [inside, notBreak, later, Bool.not_true, Bool.false_and, Bool.false_eq_true,
          ↓reduceIte]
        cases readFrom place (state.afterBreak ['\n'] 0) rest mark' <;> rfl
      · rintro _ rfl
        cases notBreak

section

variable (known : state.indent = some indent) (outside : state.inLine = false)
include known outside

/-- A line with text is read from its indentation on. -/
theorem readFrom_text (extra : Nat) {c : Char} {text : Text}
    (unbroken : ∀ d ∈ c :: text, isBreak d = false) (rest : Text) {mark : Mark}
    (margin : mark.column = 0) :
    ∃ mark', mark'.column = 0 ∧
      readFrom place state (rowText indent (extra, c :: text) ++ '\n' :: rest) mark =
        (readFrom place (state.afterLine (firstOf extra c)) rest mark').map fun result =>
          (state.separation place (firstOf extra c) ++ (List.replicate extra ' ' ++ c :: text) ++
            result.1, result.2) := by
  obtain ⟨tail, shown, tailUnbroken, firstUnbroken⟩ : ∃ tail,
      List.replicate extra ' ' ++ c :: text = firstOf extra c :: tail ∧
      (∀ d ∈ tail, isBreak d = false) ∧ isBreak (firstOf extra c) = false := by
    cases extra with
    | zero =>
        exact ⟨text, rfl, fun d member => unbroken d (.tail c member),
          unbroken c List.mem_cons_self⟩
    | succ extra =>
        refine ⟨List.replicate extra ' ' ++ c :: text, rfl, fun d member => ?_, rfl⟩
        rcases List.mem_append.mp member with isSpace | own
        · rw [List.eq_of_mem_replicate isSpace]
          rfl
        · exact unbroken d own
  have row : rowText indent (extra, c :: text) ++ '\n' :: rest =
      List.replicate indent ' ' ++ (firstOf extra c :: tail ++ '\n' :: rest) := by
    rw [rowText, if_neg (by simp), List.replicate_add, ← shown]
    simp only [List.append_assoc]
  rw [row, readFrom_spaces place outside indent _ mark fun column less => by
    rw [State.withinIndent, known]
    exact decide_eq_true (by omega)]
  have atIndent : (mark.advance indent).column = indent := by
    rw [Mark.advance_column, margin, Nat.zero_add]
  have inside : (State.within indent (firstOf extra c)).inLine := rfl
  have after : (State.within indent (firstOf extra c)).afterBreak ['\n'] 0 =
      state.afterLine (firstOf extra c) := by
    rw [State.afterBreak, if_pos inside, State.afterLine, known]
    rfl
  obtain ⟨mark', column, later⟩ := readFrom_inLine place inside tailUnbroken rest
    ((mark.advance indent).advance 1)
  rw [after, State.within] at later
  refine ⟨mark', column, ?_⟩
  rw [shown, List.cons_append, readFrom]
  · have beyond : state.withinIndent indent = false := by
      rw [State.withinIndent, known]
      exact decide_eq_false (Nat.lt_irrefl indent)
    simp only [outside, beyond, firstUnbroken, known, atIndent, later, Bool.not_false,
      Bool.and_false, Bool.false_eq_true, ↓reduceIte, Option.getD_some]
    cases readFrom place (state.afterLine (firstOf extra c)) rest mark' with
    | error => rfl
    | ok result => simp [Except.map, bind, Except.bind, pure, Except.pure]
  · rintro _ same
    rw [same] at firstUnbroken
    cases firstUnbroken

/-- A block ends where a line starts left of its indentation, or at the end of the text. -/
theorem readFrom_end {width : Nat} (left : width < indent) {rest : Text}
    (starts : ∀ c, rest.head? = some c → isSpace c = false ∧ isBreak c = false) {mark : Mark}
    (margin : mark.column = 0) :
    readFrom place state (List.replicate width ' ' ++ rest) mark =
      .ok (state.tail place, ⟨rest, mark.advance width⟩) := by
  rw [readFrom_spaces place outside width rest mark fun column less => by
    rw [State.withinIndent, known]
    exact decide_eq_true (by omega)]
  cases rest with
  | nil => rw [readFrom]
  | cons c rest =>
      obtain ⟨notSpace, notBreak⟩ := starts c rfl
      simp only [isSpace, Bool.or_eq_false_iff, decide_eq_false_iff_not] at notSpace
      have column : (mark.advance width).column ≠ indent := by
        rw [Mark.advance_column]
        omega
      rw [readFrom]
      · simp only [outside, notSpace.1, notSpace.2, notBreak, known, column, decide_false,
          Bool.and_false, Bool.false_and, Bool.false_eq_true, ↓reduceIte, Option.getD_some]
      · rintro _ rfl
        cases notBreak

end

theorem unlines_cons_append (line : Text) (lines : List Text) (rest : Text) :
    Text.unlines (line :: lines) ++ rest = line ++ '\n' :: (Text.unlines lines ++ rest) := by
  simp [Text.unlines]

/-- **Lines of a block.** Once the indentation of a block is known, its text is that of its lines, up
to a line that starts left of the block. -/
theorem readFrom_rows {rows : List Row} (unbroken : ∀ row ∈ rows, ∀ c ∈ row.2, isBreak c = false)
    {width : Nat} (left : width < indent) {rest : Text}
    (starts : ∀ c, rest.head? = some c → isSpace c = false ∧ isBreak c = false)
    (known : state.indent = some indent) (outside : state.inLine = false) {mark : Mark}
    (margin : mark.column = 0) :
    ∃ mark', readFrom place state
        (Text.unlines (rows.map (rowText indent)) ++ (List.replicate width ' ' ++ rest)) mark =
      .ok (valueFrom place state rows, ⟨rest, mark'⟩) := by
  induction rows generalizing state mark with
  | nil => exact ⟨_, readFrom_end place known outside left starts margin⟩
  | cons row rows ih =>
      have later := fun row member => unbroken row (List.mem_cons_of_mem _ member)
      obtain ⟨extra, _ | ⟨c, text⟩⟩ := row
      · have stillKnown : (state.afterBreak ['\n'] 0).indent = some indent := by
          rw [State.afterBreak, if_neg (by simp [outside])]
          exact known
        have stillOutside : (state.afterBreak ['\n'] 0).inLine = false := by
          rw [State.afterBreak, if_neg (by simp [outside])]
          exact outside
        obtain ⟨mark', read⟩ := ih later stillKnown stillOutside
          (show (mark.newLine 1).column = 0 from rfl)
        refine ⟨mark', ?_⟩
        rw [List.map_cons, unlines_cons_append]
        change readFrom place state ('\n' :: _) mark = _
        rw [readFrom_feed, margin]
        exact read
      · have own := unbroken _ List.mem_cons_self
        obtain ⟨next, column, read⟩ := readFrom_text place known outside extra own
          (Text.unlines (rows.map (rowText indent)) ++ (List.replicate width ' ' ++ rest)) margin
        have stillKnown : (state.afterLine (firstOf extra c)).indent = some indent := known
        obtain ⟨mark', below⟩ := ih later stillKnown rfl column
        refine ⟨mark', ?_⟩
        rw [List.map_cons, unlines_cons_append, read, below]
        simp only [Except.map, valueFrom]

/-- The text of a block depends on its place only by its style and its chomping. -/
theorem valueFrom_place {first second : Place} (folded : first.folded = second.folded)
    (chomping : first.chomping = second.chomping) (rows : List Row) (state : State) :
    valueFrom first state rows = valueFrom second state rows := by
  induction rows generalizing state with
  | nil => rw [valueFrom, valueFrom, State.tail, State.tail, chomping]
  | cons row rows ih =>
      obtain ⟨extra, _ | ⟨c, text⟩⟩ := row
      · rw [valueFrom, valueFrom, ih]
      · rw [valueFrom, valueFrom, State.separation, State.separation, folded, ih]

/-- Where the header does not say so, the first line of a block fixes its indentation. -/
theorem readFrom_first (least : place.leastIndent ≤ indent) {c : Char} {rest : Text}
    (notSpace : isSpace c = false) (notBreak : isBreak c = false) {mark : Mark}
    (margin : mark.column = 0) :
    readFrom place { indent := none } (List.replicate indent ' ' ++ c :: rest) mark =
      readFrom place { indent := some indent } (List.replicate indent ' ' ++ c :: rest) mark := by
  have atIndent : (mark.advance indent).column = indent := by
    rw [Mark.advance_column, margin, Nat.zero_add]
  have within : ∀ column, column < mark.column + indent →
      ({ indent := some indent } : State).withinIndent column := by
    intro column less
    rw [margin, Nat.zero_add] at less
    exact decide_eq_true less
  rw [readFrom_spaces place rfl indent _ mark fun _ _ => rfl,
    readFrom_spaces place rfl indent _ mark within]
  simp only [isSpace, Bool.or_eq_false_iff, decide_eq_false_iff_not] at notSpace
  have notReturn : ∀ more, c = '\r' → rest = '\n' :: more → False := by
    rintro _ rfl
    cases notBreak
  rw [readFrom, readFrom]
  · simp only [notSpace.1, notSpace.2, notBreak, atIndent, decide_false, Bool.and_false,
      Bool.false_and, Bool.false_eq_true, ↓reduceIte, Option.getD_none, Option.getD_some,
      Nat.zero_max, Nat.max_eq_left least]
    rfl
  · exact notReturn
  · exact notReturn

/-! ## A whole block -/

/-- The value of a block scalar without a known place. -/
def valueOf (folded : Bool) (chomping : Chomping) (rows : List Row) : Text :=
  valueFrom { folded, chomping, leastIndent := 0, start := .start } { indent := none } rows

/-- Lines further right. -/
def shift (width : Nat) (rows : List Row) : List Row := rows.map fun row => (width + row.1, row.2)

/-- A value starts with the spaces by which the first line stands right of the indentation. -/
theorem valueOf_shift (folded : Bool) (chomping : Chomping) (width : Nat) (c : Char) (text : Text)
    (rows : List Row) :
    ∃ tail, valueOf folded chomping (shift width ((0, c :: text) :: rows)) =
      List.replicate width ' ' ++ c :: tail := by
  rw [valueOf, shift, List.map_cons, Nat.add_zero, valueFrom, State.separation, if_neg (by simp)]
  simp only [List.nil_append, List.append_assoc, List.cons_append]
  exact ⟨_, rfl⟩

/-- Lines that stand further right have another value. -/
theorem width_eq_of_valueOf {folded : Bool} {chomping : Chomping} {first second : Nat} {c : Char}
    (notSpace : isSpace c = false) {text : Text} {rows : List Row}
    (same : valueOf folded chomping (shift first ((0, c :: text) :: rows)) =
      valueOf folded chomping (shift second ((0, c :: text) :: rows))) : first = second := by
  have spaces (width : Nat) : ((valueOf folded chomping
      (shift width ((0, c :: text) :: rows))).takeWhile isSpace).length = width := by
    obtain ⟨tail, value⟩ := valueOf_shift folded chomping width c text rows
    have areSpaces : ∀ d ∈ List.replicate width ' ', isSpace d = true := fun d member => by
      rw [List.eq_of_mem_replicate member]
      rfl
    rw [value, List.takeWhile_append_of_pos areSpaces, List.takeWhile_cons_of_neg (by simp [notSpace]),
      List.append_nil, List.length_replicate]
  rw [← spaces first, same, spaces second]

/-- The indentation of a block in a collection at a column whose first line stands at `base`. -/
def Header.indentAt (header : Header) (column base : Nat) : Nat :=
  (header.increment.map (column + ·)).getD base

/-- A line stands where it stands, from whatever column its place is counted. -/
theorem rowText_shift (column width : Nat) (row : Row) :
    rowText column (width + row.1, row.2) = rowText (column + width) row := by
  rw [rowText, rowText, Nat.add_assoc]

/-- An indentation digit is positive. -/
theorem Indicators.increment_pos {indicators : Text} {header : Header}
    (means : Indicators indicators header) : ∀ digit ∈ header.increment, 0 < digit := by
  have positive {digit : Char} (isDigit : digit.isDigit) (notZero : digit ≠ '0') :
      0 < digit.toNat - '0'.toNat := by
    have low : '0'.toNat ≤ digit.toNat := by
      simp only [Char.isDigit, Bool.and_eq_true, decide_eq_true_eq] at isDigit
      exact isDigit.1
    have apart : digit.toNat ≠ '0'.toNat := fun same => notZero (Char.toNat_inj.mp same)
    omega
  cases means with
  | none => nofun
  | sign => nofun
  | digit isDigit notZero =>
      rintro _ ⟨⟩
      exact positive isDigit notZero
  | signDigit _ isDigit notZero =>
      rintro _ ⟨⟩
      exact positive isDigit notZero
  | digitSign _ isDigit notZero =>
      rintro _ ⟨⟩
      exact positive isDigit notZero

/-- A block stands right of the collection that it belongs to. -/
theorem Indicators.indentAt_gt {indicators : Text} {header : Header}
    (means : Indicators indicators header) {column base : Nat} (below : column < base) :
    column < header.indentAt column base := by
  have positive := means.increment_pos
  unfold Header.indentAt
  cases increment : header.increment with
  | none => exact below
  | some digit => exact Nat.lt_add_of_pos_right (positive digit increment)

section

variable {indicators : Text} {header : Header} {gap comment : Text}
  (means : Indicators indicators header) (remark : IsRemark gap comment) (folded : Bool)
  {column base width : Nat} (below : column < base) {c : Char} {text : Text} {rows : List Row}
  (notSpace : isSpace c = false)
  (unbroken : ∀ row ∈ (0, c :: text) :: rows, ∀ d ∈ row.2, isBreak d = false)
  {rest : Text}
include means remark below notSpace unbroken

/-- After its header a block is read at the indentation that the header or the first line gives. -/
theorem read_header (style : Char) (mark : Mark) (after : Text) :
    ∃ next : Mark, next.column = 0 ∧ read folded (some column)
        ⟨style :: (indicators ++ (gap ++ comment)) ++ '\n' ::
          (Text.unlines (((0, c :: text) :: rows).map (rowText base)) ++ after), mark⟩ =
      readFrom { folded, chomping := header.chomping, start := mark
                 leastIndent := max (column + 1) 1 }
        { indent := some (header.indentAt column base) }
        (Text.unlines (((0, c :: text) :: rows).map (rowText base)) ++ after) next := by
  obtain ⟨next, margin, isHeader⟩ := readHeader_eq remark means mark
    (Text.unlines (((0, c :: text) :: rows).map (rowText base)) ++ after) (mark.advance 1)
  refine ⟨next, margin, ?_⟩
  rw [read]
  change (readHeader mark ⟨indicators ++ (gap ++ comment) ++ '\n' :: _, mark.advance 1⟩).bind _ = _
  rw [isHeader]
  change readFrom _ { indent := header.increment.map (column + ·) } _ next = _
  unfold Header.indentAt
  cases header.increment with
  | some digit => rfl
  | none =>
      have row : rowText base (0, c :: text) = List.replicate base ' ' ++ c :: text := rfl
      rw [List.map_cons, unlines_cons_append, row, List.append_assoc]
      exact readFrom_first _ (max_le below (by omega)) notSpace
        (unbroken _ List.mem_cons_self c List.mem_cons_self) margin

/-- **Reading a block scalar.** Where the first line reaches the indentation, the value is that of
the lines, counted from the indentation. -/
theorem read_rows (reaches : header.indentAt column base ≤ base) (left : width ≤ column)
    (starts : ∀ c, rest.head? = some c → isSpace c = false ∧ isBreak c = false) (style : Char)
    (mark : Mark) :
    ∃ mark', read folded (some column)
        ⟨style :: (indicators ++ (gap ++ comment)) ++ '\n' ::
          (Text.unlines (((0, c :: text) :: rows).map (rowText base)) ++
            (List.replicate width ' ' ++ rest)), mark⟩ =
      .ok (valueOf folded header.chomping
        (shift (base - header.indentAt column base) ((0, c :: text) :: rows)), ⟨rest, mark'⟩) := by
  obtain ⟨next, margin, known⟩ := read_header means remark folded below notSpace unbroken style mark
    (List.replicate width ' ' ++ rest)
  have deeper := means.indentAt_gt below
  generalize header.indentAt column base = indent at reaches known deeper ⊢
  have same : ((0, c :: text) :: rows).map (rowText base) =
      (shift (base - indent) ((0, c :: text) :: rows)).map (rowText indent) := by
    rw [shift, List.map_map]
    refine List.map_congr_left fun row _ => ?_
    rw [Function.comp_apply, rowText_shift, Nat.add_sub_cancel' reaches]
  have stillUnbroken : ∀ row ∈ shift (base - indent) ((0, c :: text) :: rows),
      ∀ d ∈ row.2, isBreak d = false := by
    intro row member
    obtain ⟨original, isRow, rfl⟩ := List.mem_map.mp member
    exact unbroken original isRow
  obtain ⟨mark', read⟩ := readFrom_rows
    { folded, chomping := header.chomping, start := mark, leastIndent := max (column + 1) 1 }
    stillUnbroken (Nat.lt_of_le_of_lt left deeper) starts
    (show ({ indent := some indent } : State).indent = some indent from rfl) rfl margin
  refine ⟨mark', ?_⟩
  rw [known, same, read, valueOf, ← valueFrom_indent _ _ { indent := none } (some indent)]
  congr 2
  exact valueFrom_place (by rfl) (by rfl) _ _

/-- Where the first line does not reach the indentation, the block is empty. -/
theorem read_left (misses : base < header.indentAt column base) (style : Char) (mark : Mark)
    (after : Text) :
    ∃ mark', read folded (some column)
        ⟨style :: (indicators ++ (gap ++ comment)) ++ '\n' ::
          (Text.unlines (((0, c :: text) :: rows).map (rowText base)) ++ after), mark⟩ =
      .ok ([], ⟨c :: text ++ '\n' :: (Text.unlines (rows.map (rowText base)) ++ after), mark'⟩) := by
  obtain ⟨next, margin, known⟩ := read_header means remark folded below notSpace unbroken style mark
    after
  refine ⟨next.advance base, ?_⟩
  have row : rowText base (0, c :: text) = List.replicate base ' ' ++ c :: text := rfl
  rw [known, List.map_cons, unlines_cons_append, row, List.append_assoc]
  refine (readFrom_end _ rfl rfl misses ?_ margin).trans ?_
  · rintro _ ⟨⟩
    exact ⟨notSpace, unbroken _ List.mem_cons_self c List.mem_cons_self⟩
  · rw [State.tail]
    split <;> rfl

end

/-- The lines below a header are a block scalar with the given value, wherever the header stands and
whatever comes after the lines at the column of the key or left of it. -/
def Reads (folded : Bool) (column : Nat) (header : Text) (lines : List Text) (value : Text) : Prop :=
  ∀ mark width after, width ≤ column →
    (∀ c, after.head? = some c → isSpace c = false ∧ isBreak c = false) →
    ∃ mark', read folded (some column)
        ⟨header ++ '\n' :: (Text.unlines lines ++ (List.replicate width ' ' ++ after)), mark⟩ =
      .ok (value, ⟨after, mark'⟩)

section

variable {indicators : Text} {header : Header} {gap comment : Text}
  (means : Indicators indicators header) (remark : IsRemark gap comment) (folded : Bool)
  {column base : Nat} (below : column < base) {c : Char} {text : Text} {rows : List Row}
  (notSpace : isSpace c = false)
  (unbroken : ∀ row ∈ (0, c :: text) :: rows, ∀ d ∈ row.2, isBreak d = false)
include means remark below notSpace unbroken

/-- **The value of a block scalar.** The lines below a header are a block scalar exactly if the first
of them reaches the indentation, and its value is that of the lines. -/
theorem reads_iff (style : Char) (value : Text) :
    Reads folded column (style :: (indicators ++ (gap ++ comment)))
        (((0, c :: text) :: rows).map (rowText base)) value ↔
      header.indentAt column base ≤ base ∧ value = valueOf folded header.chomping
        (shift (base - header.indentAt column base) ((0, c :: text) :: rows)) := by
  constructor
  · intro reads
    obtain ⟨mark', read⟩ := reads .start 0 [] (Nat.zero_le _) nofun
    by_cases reaches : header.indentAt column base ≤ base
    · have nothing : ∀ c, ([] : Text).head? = some c → isSpace c = false ∧ isBreak c = false := nofun
      obtain ⟨_, rows⟩ := read_rows means remark folded below notSpace unbroken reaches
        (Nat.zero_le _) nothing style .start
      rw [read] at rows
      exact ⟨reaches, (Prod.mk.inj (Except.ok.inj rows)).1⟩
    · obtain ⟨_, left⟩ := read_left means remark folded below notSpace unbroken
        (Nat.lt_of_not_le reaches) style .start (List.replicate 0 ' ' ++ [])
      rw [read] at left
      cases left
  · rintro ⟨reaches, rfl⟩ mark width after left starts
    exact read_rows means remark folded below notSpace unbroken reaches left starts style mark

end

end PlaybookRepair.Yaml.BlockScalar
