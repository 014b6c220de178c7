import PlaybookRepair.Proofs.ShellBlock
import PlaybookRepair.Proofs.Yaml.BlockScalar

/-!
# Block scalars of the source

A shell block that opens on the header of a block scalar keeps the header and takes the lines of the
scalar. It is written with its lines two columns right of the key, the first one there and the others
at their distances from it. Without an indentation digit the scalar therefore has the same value at
any column; the digit of a header stays as it is, so with one the value is the same exactly if the
first line stands two columns right of the key in the source as well (`read_render_iff`).
-/

namespace PlaybookRepair

open InlineValue (isBlockIndicator withoutComment)
open Yaml (Mark isBreak isSpace)
open Yaml.BlockScalar

/-! ## Headers -/

namespace Text

/-- A comment after a space is what comes from the first number sign on, with the space. -/
theorem before_comment {text rest : Text} (noSign : '#' ∉ text)
    (ends : rest = [] ∨ ∃ more, rest = ' ' :: '#' :: more) :
    before " #".toList (text ++ rest) = text := by
  induction text with
  | nil => rcases ends with rfl | ⟨more, rfl⟩ <;> rfl
  | cons c text ih =>
      have second : (text ++ rest).head? ≠ some '#' := by
        cases text with
        | nil => rcases ends with rfl | ⟨more, rfl⟩ <;> simp
        | cons d text =>
            rintro ⟨⟩
            exact noSign (List.mem_cons_of_mem c List.mem_cons_self)
      have notThere : " #".toList.isPrefixOf (c :: (text ++ rest)) = false := by
        cases more : text ++ rest with
        | nil => simp [List.isPrefixOf]
        | cons d tail =>
            rw [more] at second
            have notSign : '#' ≠ d := fun same => second (congrArg some same.symm)
            simp [List.isPrefixOf, notSign]
      rw [List.cons_append, before, if_neg (Bool.eq_false_iff.mp notThere),
        ih fun member => noSign (List.mem_cons_of_mem c member)]

/-- Blanks are trimmed off behind a text that does not end with one. -/
theorem trimEnd_append {text blanks : Text} (areBlank : ∀ c ∈ blanks, isBlank c)
    (ends : ∀ c, text.getLast? = some c → isBlank c = false) : trimEnd (text ++ blanks) = text := by
  have reversed : ∀ c ∈ blanks.reverse, isBlank c = true :=
    fun c member => areBlank c (List.mem_reverse.mp member)
  rw [trimEnd, List.reverse_append, List.dropWhile_append_of_pos reversed]
  cases last : text.reverse with
  | nil =>
      rw [List.reverse_eq_nil_iff.mp last]
      rfl
  | cons c rest =>
      have isLast : text.getLast? = some c := by
        rw [List.getLast?_eq_head?_reverse, last]
        rfl
      rw [List.dropWhile_cons_of_neg (by simp [ends c isLast]), ← last, List.reverse_reverse]

end Text

/-- The characters of the indicators of a header. -/
theorem Yaml.BlockScalar.Indicators.chars {indicators : Text} {header : Header}
    (means : Indicators indicators header) :
    ∀ c ∈ indicators, c = '+' ∨ c = '-' ∨ c.isDigit := by
  have signs {sign : Char} {chomping : Chomping} (isSign : chompingOf? sign = some chomping) :
      sign = '+' ∨ sign = '-' ∨ sign.isDigit := by
    unfold chompingOf? at isSign
    split at isSign
    · exact .inl ‹_›
    · split at isSign
      · exact .inr (.inl ‹_›)
      · cases isSign
  cases means with
  | none => simp
  | sign isSign => simpa using signs isSign
  | digit isDigit => simp [isDigit]
  | signDigit isSign isDigit => simpa [isDigit] using signs isSign
  | digitSign isSign isDigit => simpa [isDigit] using signs isSign

section

variable {style : Char} {indicators gap comment : Text} {header : Header}
  (isStyle : style = '|' ∨ style = '>') (means : Indicators indicators header)
include isStyle means

/-- Nothing in the style and the indicators of a header is a number sign or a blank. -/
theorem header_chars : ∀ c ∈ style :: indicators, c ≠ '#' ∧ Text.isBlank c = false := by
  intro c member
  have digits : c.isDigit → c ≠ '#' ∧ Text.isBlank c = false := by
    intro isDigit
    simp only [Char.isDigit, Bool.and_eq_true, decide_eq_true_eq] at isDigit
    have low : 48 ≤ c.toNat := isDigit.1
    have high : c.toNat ≤ 57 := isDigit.2
    refine ⟨?_, ?_⟩
    · rintro rfl
      exact absurd low (by decide)
    · simp only [Text.isBlank, Bool.or_eq_false_iff, Bool.and_eq_false_iff, beq_eq_false_iff_ne,
        decide_eq_false_iff_not]
      omega
  rcases List.mem_cons.mp member with rfl | isIndicator
  · rcases isStyle with rfl | rfl <;> decide
  · rcases means.chars c isIndicator with rfl | rfl | isDigit
    · decide
    · decide
    · exact digits isDigit

variable (remark : IsRemark gap comment) (spaced : ∀ c ∈ gap.getLast?, c = ' ')
include remark spaced

/-- A comment after a space is cut off a header. -/
theorem withoutComment_header :
    withoutComment (style :: (indicators ++ (gap ++ comment))) = style :: indicators := by
  have chars := header_chars isStyle means
  have ends : ∀ c, (style :: indicators).getLast? = some c → Text.isBlank c = false :=
    fun c last => (chars c (List.mem_of_getLast? last)).2
  obtain ⟨blanks, rest, split, areSpaces, follows⟩ : ∃ blanks rest,
      gap ++ comment = blanks ++ rest ∧ (∀ c ∈ blanks, isSpace c) ∧
        (rest = [] ∨ ∃ more, rest = ' ' :: '#' :: more) := by
    rcases remark.starts with ⟨rfl, rfl⟩ | ⟨notEmpty, more, rfl⟩
    · exact ⟨[], [], rfl, nofun, .inl rfl⟩
    · obtain ⟨front, last, rfl⟩ := (List.eq_nil_or_concat gap).resolve_left notEmpty
      rw [List.concat_eq_append] at spaced remark ⊢
      obtain rfl : last = ' ' := spaced last (by simp)
      exact ⟨front, ' ' :: '#' :: more, by simp,
        fun c member => remark.spaces c (List.mem_append_left _ member), .inr ⟨more, rfl⟩⟩
  have spacesAre : ∀ c, isSpace c → c ≠ '#' ∧ Text.isBlank c := by
    intro c space
    rcases (by simpa [isSpace] using space : c = ' ' ∨ c = '\t') with rfl | rfl <;> decide
  have noSign : '#' ∉ style :: indicators ++ blanks := by
    intro member
    rcases List.mem_append.mp member with own | isSpace
    · exact (chars _ own).1 rfl
    · exact (spacesAre _ (areSpaces _ isSpace)).1 rfl
  rw [withoutComment, split, ← List.append_assoc, ← List.cons_append, ← List.cons_append,
    Text.before_comment noSign follows]
  exact Text.trimEnd_append (fun c member => (spacesAre c (areSpaces c member)).2) ends

theorem isBlockIndicator_header :
    isBlockIndicator (style :: (indicators ++ (gap ++ comment))) := by
  rw [isBlockIndicator, withoutComment_header isStyle means remark spaced]
  simp only [Bool.and_eq_true, Bool.or_eq_true, decide_eq_true_eq, List.all_eq_true]
  exact ⟨isStyle, fun c member => or_assoc.mpr (means.chars c member)⟩

end

/-! ## Gathering the lines of a scalar -/

/-- The block with one more line of the source, if the line belongs to the block. -/
def ShellBlock.absorb? (block : ShellBlock) (token : LineToken) : Option ShellBlock :=
  if token.role = .blank then some block.pushBlank
  else if block.accepts token then some (block.push token)
  else none

/-- In a rebuild the open block takes the lines that belong to it. -/
theorem Tracker.extendShell?_eq (tracker : Tracker) (token : LineToken) :
    tracker.extendShell? token = (tracker.nesting.shell.bind (·.absorb? token)).map fun block =>
      tracker.withNesting { tracker.nesting with shell := some block } := by
  unfold extendShell?
  cases tracker.nesting.shell <;> rfl

namespace ShellBlock

/-- The body of a block with the blank lines that wait for the next line. -/
def wholeBody (block : ShellBlock) : List ScriptLine :=
  block.body ++ List.replicate block.pendingBlanks ⟨0, []⟩

/-- A line of the source as it stands in the body of a block. -/
def sourceLine (token : LineToken) : ScriptLine :=
  if token.content.isEmpty then ⟨0, []⟩ else scriptLine token

/-- The lines below the header of a block scalar: each is a text behind spaces or empty, the first
and the last have text, and none stands left of the first one, which stands right of the column of
the key. -/
structure IsBody (column : Nat) (first : LineToken) (rest : List LineToken) : Prop where
  classified : ∀ token ∈ first :: rest, token.Classified
  margin : ∀ token ∈ first :: rest, token.line.raw =
    if token.content.isEmpty then [] else List.replicate token.indent ' ' ++ token.content
  unbroken : ∀ token ∈ first :: rest, ∀ c ∈ token.content, isBreak c = false
  starts : first.content ≠ []
  ends : ∀ last ∈ (first :: rest).getLast?, last.content ≠ []
  right : ∀ token ∈ first :: rest, token.content ≠ [] → first.indent ≤ token.indent
  deeper : column < first.indent

section

variable {block : ShellBlock} {lines : List LineToken}

/-- A block scalar takes all lines that stand right of its key, in their order. -/
theorem foldlM_absorb? (explicit : block.explicit) (hasBody : block.body ≠ [])
    (classified : ∀ token ∈ lines, token.Classified)
    (deeper : ∀ token ∈ lines, token.content ≠ [] → block.startIndent < token.indent) :
    ∃ result, lines.foldlM absorb? block = some result ∧ result.SameHeader block ∧
      result.wholeBody = block.wholeBody ++ lines.map sourceLine := by
  induction lines generalizing block with
  | nil => exact ⟨block, rfl, .refl block, (List.append_nil _).symm⟩
  | cons token lines ih =>
      have later := fun token member => classified token (List.mem_cons_of_mem _ member)
      have laterDeeper := fun token member => deeper token (List.mem_cons_of_mem _ member)
      have blank := (classified token List.mem_cons_self).role_eq_blank_iff
      by_cases isBlank : token.role = .blank
      · have absorbs : block.absorb? token = some block.pushBlank := if_pos isBlank
        have stillExplicit : block.pushBlank.explicit := explicit
        obtain ⟨result, folds, same, whole⟩ := ih stillExplicit hasBody later laterDeeper
        refine ⟨result, ?_, ?_, ?_⟩
        · rw [List.foldlM_cons, absorbs]
          exact folds
        · exact ⟨same.key, same.indicator, same.startIndent, same.explicit, same.inline⟩
        · have entry : sourceLine token = ⟨0, []⟩ := if_pos (by simp [blank.mp isBlank])
          rw [whole, List.map_cons, entry]
          simp only [wholeBody, pushBlank, List.replicate_succ', List.append_assoc,
            List.singleton_append]
      · have hasContent := mt blank.mpr isBlank
        have accepts : block.accepts token := by
          rw [ShellBlock.accepts, if_pos explicit]
          exact decide_eq_true (deeper token List.mem_cons_self hasContent)
        have absorbs : block.absorb? token = some (block.push token) := by
          rw [absorb?, if_neg isBlank, if_pos accepts]
        have entry : sourceLine token = scriptLine token := if_neg (by simp [hasContent])
        have body : (block.push token).body = block.wholeBody ++ [scriptLine token] := by
          rw [ShellBlock.push, if_neg (by simp [hasBody])]
          rfl
        have stillExplicit : (block.push token).explicit := explicit
        obtain ⟨result, folds, same, whole⟩ := ih stillExplicit (by simp [body]) later laterDeeper
        refine ⟨result, ?_, ?_, ?_⟩
        · rw [List.foldlM_cons, absorbs]
          exact folds
        · exact ⟨same.key, same.indicator, same.startIndent, same.explicit, same.inline⟩
        · rw [whole, List.map_cons, entry, wholeBody, body]
          simp [ShellBlock.push]

end

/-- A line of the source, counted from a column. -/
def sourceRow (base : Nat) (token : LineToken) : Row := (token.indent - base, token.content)

section

variable {column : Nat} {first : LineToken} {rest : List LineToken}
  (isBody : IsBody column first rest)
include isBody

/-- The lines of the source by how far they stand right of the first one. -/
theorem IsBody.raw_eq : (first :: rest).map (·.line.raw) =
    ((first :: rest).map (sourceRow first.indent)).map (rowText first.indent) := by
  rw [List.map_map]
  refine List.map_congr_left fun token member => ?_
  rw [isBody.margin token member, Function.comp_apply, sourceRow, rowText]
  by_cases empty : token.content.isEmpty
  · rw [if_pos empty, if_pos empty]
  · have right := isBody.right token member (by simpa using empty)
    rw [if_neg empty, if_neg empty, Nat.add_sub_cancel' right]

/-- The lines of a block scalar open with a text that does not start with a space. -/
theorem IsBody.rows_eq : ∃ c text, first.content = c :: text ∧ isSpace c = false ∧
    (first :: rest).map (sourceRow first.indent) =
      (0, c :: text) :: rest.map (sourceRow first.indent) := by
  obtain ⟨c, text, content⟩ := List.exists_cons_of_ne_nil isBody.starts
  have notBlank : Text.isBlank c = false := by
    have trimmed : Text.trim first.line.raw = c :: text := content
    exact Text.isBlank_head_trim trimmed
  refine ⟨c, text, content, ?_, ?_⟩
  · by_contra space
    rw [Bool.not_eq_false] at space
    rcases (by simpa [isSpace] using space : c = ' ' ∨ c = '\t') with rfl | rfl <;>
      exact absurd notBlank (by decide)
  · rw [List.map_cons, sourceRow, Nat.sub_self, content]

theorem IsBody.unbroken_rows : ∀ row ∈ (first :: rest).map (sourceRow first.indent),
    ∀ c ∈ row.2, isBreak c = false := by
  intro row member
  obtain ⟨token, isLine, rfl⟩ := List.mem_map.mp member
  exact isBody.unbroken token isLine

end

section

variable {token first : LineToken} {rest : List LineToken} (explicit : (ofModule token).explicit)
  (isBody : IsBody token.indent first rest)
include explicit isBody

/-- A block that opens on the header of a block scalar takes the lines of the scalar. -/
theorem exists_block : ∃ block, (first :: rest).foldlM absorb? (ofModule token) = some block ∧
    block.SameHeader (ofModule token) ∧ block.body = (first :: rest).map sourceLine := by
  have isExplicit : isBlockIndicator token.value := explicit
  have noInline : (ofModule token).inline = none := by
    simp only [ofModule, isExplicit, Bool.or_true, ↓reduceIte]
  have firstClassified := isBody.classified first List.mem_cons_self
  have absorbs : (ofModule token).absorb? first = some ((ofModule token).push first) := by
    rw [absorb?, if_neg (mt firstClassified.role_eq_blank_iff.mp isBody.starts), if_pos]
    rw [ShellBlock.accepts, if_pos explicit]
    exact decide_eq_true isBody.deeper
  have opened : ((ofModule token).push first).body = [scriptLine first] := by
    rw [ShellBlock.push, noInline]
    rfl
  have stillExplicit : ((ofModule token).push first).explicit := explicit
  obtain ⟨block, folds, same, whole⟩ := foldlM_absorb? stillExplicit (by simp [opened])
    (fun token member => isBody.classified token (List.mem_cons_of_mem _ member))
    (fun token member hasContent => Nat.lt_of_lt_of_le isBody.deeper
      (isBody.right token (List.mem_cons_of_mem _ member) hasContent))
  have firstLine : scriptLine first = sourceLine first :=
    (if_neg (by simp [isBody.starts])).symm
  have allLines : block.wholeBody = (first :: rest).map sourceLine := by
    rw [whole, wholeBody, opened, firstLine]
    rfl
  -- The last line has text, so no blank line waits for another one.
  have noBlanks : block.pendingBlanks = 0 := by
    by_contra pending
    obtain ⟨blanks, isSome⟩ := Nat.exists_eq_succ_of_ne_zero pending
    obtain ⟨front, last, split⟩ := 
      (List.eq_nil_or_concat (first :: rest)).resolve_left (List.cons_ne_nil first rest)
    rw [List.concat_eq_append] at split
    have hasText := isBody.ends last (by rw [split]; simp)
    rw [wholeBody, isSome, List.replicate_succ', ← List.append_assoc, split, List.map_append] at allLines
    have ends := List.singleton_inj.mp (List.append_inj' allLines rfl).2
    rw [sourceLine, if_neg (by simp [hasText])] at ends
    exact hasText (congrArg ScriptLine.text ends).symm
  refine ⟨block, ?_, ⟨same.key, same.indicator, same.startIndent, same.explicit, same.inline⟩, ?_⟩
  · rw [List.foldlM_cons, absorbs]
    exact folds
  · rw [← allLines, wholeBody, noBlanks]
    exact (List.append_nil _).symm

/-- Such a block is written with the header of the source and its lines two columns right of the key,
at their distances from the first one. -/
theorem exists_written : ∃ block below,
    (first :: rest).foldlM absorb? (ofModule token) = some block ∧
      block.render true = (0, (ofModule token).key ++ ": ".toList ++ withoutComment token.value) ::
        below ∧
      ∀ column, below.map (fun row => indented (column + row.1) row.2) =
        ((first :: rest).map (sourceRow first.indent)).map (rowText (column + indentStep)) := by
  obtain ⟨block, folds, same, body⟩ := exists_block explicit isBody
  have isExplicit : isBlockIndicator token.value := explicit
  have blockExplicit : block.explicit := same.explicit.trans explicit
  have inline : block.inline = none := by
    rw [same.inline]
    simp only [ofModule, isExplicit, Bool.or_true, ↓reduceIte]
  have indicator : block.indicator = withoutComment token.value := by
    rw [same.indicator]
    simp only [ofModule, isExplicit, ↓reduceIte]
  have base : baseIndent block.body = first.indent := by
    have firstLine : sourceLine first = scriptLine first := if_neg (by simp [isBody.starts])
    rw [body, baseIndent, List.map_cons, firstLine]
    simp [scriptLine, isBody.starts]
  have isScript : ¬ (!block.explicit && block.body.isEmpty) := by simp [blockExplicit]
  have rendered := render_of_script isScript true
  rw [headerText, if_neg (by simp [blockExplicit]), if_pos blockExplicit, same.key, indicator,
    inline] at rendered
  refine ⟨block, _, folds, rendered, fun column => ?_⟩
  rw [Option.toList_none, List.map_nil, List.nil_append, body, List.map_map, List.map_map,
    List.map_map, ← body, base]
  refine List.map_congr_left fun line _ => ?_
  simp only [Function.comp_apply, sourceLine, sourceRow, rowText, blockExplicit,
    Bool.and_self, ↓reduceIte]
  by_cases empty : line.content.isEmpty
  · simp [empty, indented]
  · simp [empty, indented, scriptLine, Nat.add_assoc]

end

end ShellBlock

open ShellBlock in
/-- **Writing a block scalar anew.** A shell block that opens on the header of a block scalar takes
the lines of the scalar and is written with the header, without its comment, and with as many lines.
At any column these are a block scalar with the value of the source exactly if the header has no
indentation digit, or the first line of the source stands two columns right of the key. -/
theorem read_render_iff {token first : LineToken} {rest : List LineToken} {style : Char}
    {indicators gap comment : Text} {header : Header}
    (isStyle : style = '|' ∨ style = '>') (means : Indicators indicators header)
    (remark : IsRemark gap comment) (spaced : ∀ c ∈ gap.getLast?, c = ' ')
    (written : token.value = style :: (indicators ++ (gap ++ comment)))
    (isBody : IsBody token.indent first rest) :
    ∃ block below, (first :: rest).foldlM absorb? (ofModule token) = some block ∧
      block.render true = (0, (ofModule token).key ++ ": ".toList ++ style :: indicators) :: below ∧
      ∀ value, Reads (style = '>') token.indent token.value ((first :: rest).map (·.line.raw)) value →
        ∀ column, Reads (style = '>') column (style :: indicators)
            (below.map fun row => indented (column + row.1) row.2) value ↔
          header.increment = none ∨ first.indent = token.indent + indentStep := by
  have explicit : (ofModule token).explicit := by
    change isBlockIndicator token.value
    rw [written]
    exact isBlockIndicator_header isStyle means remark spaced
  obtain ⟨block, below, folds, rendered, lines⟩ := exists_written explicit isBody
  rw [written, withoutComment_header isStyle means remark spaced] at rendered
  refine ⟨block, below, folds, rendered, fun value reads column => ?_⟩
  obtain ⟨c, text, _, notSpace, rows⟩ := isBody.rows_eq
  have unbroken := isBody.unbroken_rows
  have noRemark : IsRemark [] [] := ⟨nofun, nofun, .inl ⟨rfl, rfl⟩⟩
  rw [rows] at unbroken
  rw [isBody.raw_eq, written, rows, reads_iff means remark _ isBody.deeper notSpace unbroken] at reads
  have anew := reads_iff means noRemark (style = '>') (Nat.lt_add_of_pos_right (by decide) :
    column < column + indentStep) notSpace unbroken style value
  rw [List.append_nil, List.append_nil] at anew
  rw [lines, rows, anew]
  obtain ⟨reaches, rfl⟩ := reads
  have deeper := isBody.deeper
  cases increment : header.increment with
  | none =>
      have atLine (column base : Nat) : header.indentAt column base = base := by
        rw [Header.indentAt, increment]
        rfl
      simp [atLine]
  | some digit =>
      have atDigit (column base : Nat) : header.indentAt column base = column + digit := by
        rw [Header.indentAt, increment]
        rfl
      rw [atDigit] at reaches
      rw [atDigit, atDigit]
      simp only [reduceCtorEq, false_or]
      constructor
      · rintro ⟨stillReaches, same⟩
        have widths := width_eq_of_valueOf notSpace same
        omega
      · intro aligned
        have offsets : column + indentStep - (column + digit) =
            first.indent - (token.indent + digit) := by omega
        exact ⟨by omega, by rw [offsets]⟩

open ShellBlock in
/-- A literal scalar whose line breaks at the end are stripped, with a comment, a blank line and a
line that stands further right. -/
theorem read_render_iff_literal :
    let token := LineToken.classify ⟨1, "    shell: |- # run".toList⟩ {}
    let lines := ["     if a".toList, [], "       b".toList].map fun raw =>
      LineToken.classify ⟨2, raw⟩ {}
    Reads false token.indent token.value (lines.map (·.line.raw)) "if a\n\n  b".toList ∧
      ∃ block below, lines.foldlM absorb? (ofModule token) = some block ∧
        block.render true = (0, "shell: |-".toList) :: below ∧
        ∀ column, Reads false column "|-".toList
          (below.map fun row => indented (column + row.1) row.2) "if a\n\n  b".toList := by
  intro token lines
  have means : Indicators "-".toList { chomping := .strip } := .sign rfl
  have remark : IsRemark " ".toList "# run".toList := ⟨by decide, by decide, .inr ⟨nofun, _, rfl⟩⟩
  have written : token.value = '|' :: ("-".toList ++ (" ".toList ++ "# run".toList)) := by
    decide +kernel
  have isBody : IsBody token.indent (.classify ⟨2, "     if a".toList⟩ {}) (lines.drop 1) := by
    refine ⟨fun token member => ?_, ?_, ?_, ?_, ?_, ?_, ?_⟩
    · obtain ⟨raw, _, rfl⟩ := List.mem_map.mp (show token ∈ lines from member)
      exact ⟨_, _, rfl⟩
    all_goals decide +kernel
  have source : Reads false token.indent token.value (lines.map (·.line.raw))
      "if a\n\n  b".toList := by
    rw [written]
    exact (@reads_iff _ _ _ _ means remark false 4 5 (by decide) 'i' "f a".toList
      [(0, []), (2, "b".toList)] (by decide) (by decide) '|' _).mpr ⟨by decide, by decide⟩
  obtain ⟨block, below, folds, rendered, reads⟩ := read_render_iff (.inl rfl) means remark
    (fun _ last => (Option.some.inj last).symm) written isBody
  refine ⟨source, block, below, folds, rendered.trans ?_, fun column => ?_⟩
  · exact congrArg (· :: below) (by decide +kernel)
  · exact (reads _ source column).mpr (.inl rfl)

open ShellBlock in
/-- The indentation digit of a header stays when the lines move. -/
theorem read_render_digit :
    let token := LineToken.classify ⟨1, "    shell: |4".toList⟩ {}
    let line := LineToken.classify ⟨2, "        echo hi".toList⟩ {}
    Reads false token.indent token.value [line.line.raw] "echo hi\n".toList ∧
      ∃ block, [line].foldlM absorb? (ofModule token) = some block ∧
        block.render true = [(0, "shell: |4".toList), (2, "echo hi".toList)] ∧
        ∀ column, ¬ Reads false column "|4".toList [indented (column + 2) "echo hi".toList]
          "echo hi\n".toList := by
  intro token line
  have means : Indicators "4".toList { increment := some 4 } := .digit (by decide) (by decide)
  have noRemark : IsRemark [] [] := ⟨nofun, nofun, .inl ⟨rfl, rfl⟩⟩
  have reads (column base : Nat) (below : column < base) :=
    @reads_iff _ _ _ _ means noRemark false column base below 'e' "cho hi".toList []
      (by decide) (by decide) '|' "echo hi\n".toList
  refine ⟨?_, (ofModule token).push line, by decide +kernel, by decide +kernel, fun column => ?_⟩
  · exact (reads 4 8 (by decide)).mpr ⟨by decide, by decide⟩
  · refine fun anew => ?_
    obtain ⟨reaches, _⟩ := (reads column (column + 2) (by omega)).mp anew
    change column + 4 ≤ column + 2 at reaches
    omega

end PlaybookRepair
