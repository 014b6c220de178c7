import PlaybookRepair.Proofs.KeyedLine
import PlaybookRepair.Proofs.Role
import PlaybookRepair.Tracker

/-!
# Tidy lines

The lines of a tidy document are keys with inline values, perhaps after a list marker, and keys
alone, each at the column of its role and written as a rebuild writes it. Such a line is read as its
key and its value (`facts_pair`, `facts_item`, `facts_key`), and its key tells its role where a tidy
document has it (`role_taskKey` and the lemmas after it).
-/

namespace PlaybookRepair

open Catalog (ShellFamily isModule isTaskSection keywordScope? moduleName playKeywords taskKeywords
  taskSections)

namespace KeyedLine

/-- Whether a text is a name that can be a key. -/
def isName : Text → Bool
  | c :: rest => isKeyStart c && rest.all isKeyChar
  | [] => false

theorem splitKey?_of_isName {key rest : Text} (named : isName key)
    (ends : ∀ c, rest.head? = some c → isKeyChar c = false) :
    splitKey? (key ++ rest) = some (key, rest) := by
  cases key with
  | nil => cases named
  | cons c key =>
      obtain ⟨start, chars⟩ := Bool.and_eq_true_iff.mp named
      have areChars : ∀ d ∈ key, isKeyChar d := List.all_eq_true.mp chars
      have stops : rest.takeWhile isKeyChar = [] ∧ rest.dropWhile isKeyChar = rest := by
        cases rest with
        | nil => exact ⟨rfl, rfl⟩
        | cons d rest =>
            have last := ends d rfl
            exact ⟨List.takeWhile_cons_of_neg (by simp [last]),
              List.dropWhile_cons_of_neg (by simp [last])⟩
      rw [List.cons_append, splitKey?]
      · rw [if_pos start, List.takeWhile_append_of_pos areChars,
          List.dropWhile_append_of_pos areChars, stops.1, stops.2, List.append_nil]
      · rintro rfl
        cases start
      · rintro rfl
        cases start

/-- Keywords are names. -/
theorem isName_of_keywordScope? {key : Text} (isKeyword : keywordScope? key ≠ none) :
    isName key := by
  have listed : ∀ word ∈ taskKeywords ++ playKeywords, isName word := by decide +kernel
  by_cases onTask : taskKeywords.contains key
  · exact listed key (List.mem_append_left _ (List.contains_iff_mem.mp onTask))
  · by_cases onPlay : playKeywords.contains key
    · exact listed key (List.mem_append_right _ (List.contains_iff_mem.mp onPlay))
    · rw [keywordScope?, Bool.eq_false_iff.mpr onTask, Bool.eq_false_iff.mpr onPlay] at isKeyword
      exact (isKeyword rfl).elim

end KeyedLine

/-- No module has the name of a keyword. -/
theorem keywordScope?_of_isModule {key : Text} (named : isModule key) :
    keywordScope? key = none := by
  have listed : ∀ word ∈ taskKeywords ++ playKeywords, isModule word = false := by decide +kernel
  have onTask : taskKeywords.contains key = false := by
    by_contra isKeyword
    rw [Bool.not_eq_false, List.contains_iff_mem] at isKeyword
    rw [listed key (List.mem_append_left _ isKeyword)] at named
    cases named
  have onPlay : playKeywords.contains key = false := by
    by_contra isKeyword
    rw [Bool.not_eq_false, List.contains_iff_mem] at isKeyword
    rw [listed key (List.mem_append_right _ isKeyword)] at named
    cases named
  rw [keywordScope?, onTask, onPlay]

namespace Tidy

/-! ## Parts of lines -/

/-- The content of a line: a text on one line that is not empty and has no blanks at its ends. -/
structure Content where
  text : Text
  notEmpty : text ≠ []
  trimmed : Text.trim text = text
  isLine : text.IsLine

/-- A value that stands after its key as it is. -/
structure Value extends Content where
  inline : InlineValue.opensBlock text = false
  unquoted : InlineValue.quoteMapping text = text

/-- A key of a task: a keyword that is valid on tasks, or the name of a module, perhaps with its
collection. -/
structure TaskKey where
  text : Text
  named : KeyedLine.isName text
  belongs : keywordScope? text = some .task ∨ keywordScope? text = some .shared ∨ isModule text

/-- A keyword of a play with a value of its own. -/
structure PlayKey where
  text : Text
  belongs : keywordScope? text = some .play ∨ keywordScope? text = some .shared
  notHosts : text ≠ "hosts".toList
  notSection : isTaskSection text = false

/-- A keyword of a play whose value is a list of tasks. -/
structure SectionKey where
  text : Text
  belongs : isTaskSection text

theorem Content.isBlank_getLast (content : Content) {c : Char}
    (ends : content.text.getLast? = some c) : Text.isBlank c = false := by
  rw [← content.trimmed] at ends
  exact Text.isBlank_getLast_trim ends

theorem code_of_isKeyStart {c : Char} (start : KeyedLine.isKeyStart c) :
    65 ≤ c.toNat ∧ c.toNat < 128 := by
  delta KeyedLine.isKeyStart Char.isAlpha Char.isUpper Char.isLower at start
  simp only [Bool.or_eq_true, Bool.and_eq_true, decide_eq_true_eq, ge_iff_le,
    UInt32.le_iff_toNat_le] at start
  rcases start with (⟨low, high⟩ | ⟨low, high⟩) | rfl
  · change 65 ≤ c.toNat at low
    change c.toNat ≤ 90 at high
    omega
  · change 97 ≤ c.toNat at low
    change c.toNat ≤ 122 at high
    omega
  · decide

theorem isBlank_of_isKeyStart {c : Char} (start : KeyedLine.isKeyStart c) :
    Text.isBlank c = false := by
  have code := code_of_isKeyStart start
  simp only [Text.isBlank, Bool.or_eq_false_iff, Bool.and_eq_false_iff, beq_eq_false_iff_ne,
    decide_eq_false_iff_not]
  omega

theorem isLine_of_isName {key : Text} (named : KeyedLine.isName key) : key.IsLine := by
  cases key with
  | nil => exact Text.isLine_nil
  | cons c key =>
      obtain ⟨start, chars⟩ := Bool.and_eq_true_iff.mp named
      refine Text.isLine_cons.mpr ⟨?_, fun isPart => ?_⟩
      · rintro rfl
        cases start
      · have isChar := List.all_eq_true.mp chars _ isPart
        revert isChar
        decide

/-- A name and what stands after it are the content of a line. -/
def Content.named {key : Text} (named : KeyedLine.isName key) (rest : Text) (goesOn : rest ≠ [])
    (ends : ∀ c, rest.getLast? = some c → Text.isBlank c = false) (isLine : rest.IsLine) :
    Content where
  text := key ++ rest
  notEmpty := List.append_ne_nil_of_right_ne_nil key goesOn
  trimmed := by
    refine Text.trim_eq_self ?_ ?_
    · intro c first
      cases key with
      | nil => cases named
      | cons d key =>
          obtain rfl : d = c := Option.some.inj first
          exact isBlank_of_isKeyStart (Bool.and_eq_true_iff.mp named).1
    · intro c last
      rw [List.getLast?_append_of_ne_nil _ goesOn] at last
      exact ends c last
  isLine := Text.isLine_append.mpr ⟨isLine_of_isName named, isLine⟩

/-- A key with a value on its line. -/
def Content.pair {key : Text} (named : KeyedLine.isName key) (value : Content) : Content :=
  .named named (": ".toList ++ value.text) (by simp)
    (by
      intro c last
      rw [List.getLast?_append_of_ne_nil _ value.notEmpty] at last
      exact value.isBlank_getLast last)
    (Text.isLine_append.mpr ⟨by decide, value.isLine⟩)

/-- A key whose value is on the lines below. -/
def Content.key {key : Text} (named : KeyedLine.isName key) : Content :=
  .named named [':'] (by simp) (by simp; decide) (by decide)

/-- A content after a list marker. -/
def Content.item (content : Content) : Content where
  text := listItemText content.text
  notEmpty := List.cons_ne_nil _ _
  trimmed := by
    refine Text.trim_eq_self ?_ ?_
    · intro c first
      obtain rfl : '-' = c := Option.some.inj first
      decide
    · intro c last
      refine content.isBlank_getLast ?_
      rwa [listItemText, List.getLast?_cons_cons, List.getLast?_cons_of_ne_nil content.notEmpty]
        at last
  isLine := Text.isLine_cons.mpr ⟨by decide, Text.isLine_cons.mpr ⟨by decide, content.isLine⟩⟩

/-! ## Lines -/

/-- The line with the content at a column. -/
def Content.line (content : Content) (column : Nat) : Text := indented column content.text

theorem Content.line_eq (content : Content) (column : Nat) :
    content.line column = List.replicate column ' ' ++ content.text := by
  rw [Content.line, indented, if_neg (by simpa using content.notEmpty)]

theorem indentWidth_spaces {text : Text}
    (starts : ∀ c, text.head? = some c → Text.isBlank c = false)
    (column : Nat) : Line.indentWidth (List.replicate column ' ' ++ text) = column := by
  induction column with
  | zero =>
      cases text with
      | nil => rfl
      | cons c rest =>
          have notBlank := starts c rfl
          rw [List.replicate_zero, List.nil_append, Line.indentWidth]
          · intro _ same
            rw [(List.cons.inj same).1] at notBlank
            cases notBlank
          · intro _ same
            rw [(List.cons.inj same).1] at notBlank
            cases notBlank
  | succ column ih =>
      rw [List.replicate_succ, List.cons_append, Line.indentWidth, ih, Nat.add_comm]

/-- A line shows its content and the column at which it stands. -/
theorem Content.reads {line : Line} {content : Content} {column : Nat}
    (raw : line.raw = content.line column) :
    line.indent = column ∧ line.content = content.text := by
  rw [content.line_eq] at raw
  constructor
  · rw [Line.indent, raw]
    refine indentWidth_spaces (fun c first => ?_) column
    obtain ⟨rest, starts⟩ := List.head?_eq_some_iff.mp first
    exact Text.isBlank_head_trim (content.trimmed.trans starts)
  · rw [Line.content, raw]
    have areBlank : ∀ c ∈ List.replicate column ' ', Text.isBlank c := by
      intro c member
      rw [List.eq_of_mem_replicate member]
      rfl
    have trimmed := Text.trim_append_trim areBlank content.text
    rwa [content.trimmed] at trimmed

/-- A line takes up one line of a text and does not end with a carriage return. -/
theorem Content.isLine_line (content : Content) (column : Nat) :
    (content.line column).IsLine ∧ (content.line column).getLast? ≠ some '\r' := by
  rw [content.line_eq]
  refine ⟨Text.isLine_append.mpr ⟨Text.isLine_replicate_space column, content.isLine⟩, ?_⟩
  rw [List.getLast?_append_of_ne_nil _ content.notEmpty]
  intro ends
  exact absurd (content.isBlank_getLast ends) (by decide)

section Facts

variable {line : Line} {key : Text} (named : KeyedLine.isName key)
include named

theorem isDashed_named (rest : Text) : LineFacts.isDashed (key ++ rest) = false := by
  cases key with
  | nil => cases named
  | cons c key =>
      have notDash : c ≠ '-' := by
        rintro rfl
        rw [KeyedLine.isName, Bool.and_eq_true] at named
        cases named.1
      simp [LineFacts.isDashed, List.isPrefixOf, notDash, Ne.symm notDash]

theorem splitKeyValue?_pair (value : Content) :
    KeyedLine.splitKeyValue? (Content.pair named value).text = some (key, value.text) := by
  have split : KeyedLine.splitKey? (Content.pair named value).text =
      some (key, ": ".toList ++ value.text) :=
    KeyedLine.splitKey?_of_isName named (by
      intro c first
      obtain rfl : ':' = c := Option.some.inj first
      decide)
  have noFeed : value.text.contains '\n' = false := by
    rw [Bool.eq_false_iff, Ne, List.contains_iff_mem]
    exact value.isLine
  rw [KeyedLine.splitKeyValue?, split]
  change (if KeyedLine.isGap ' ' && !value.text.contains '\n' then some (Text.trim value.text)
    else none).map (key, ·) = _
  rw [noFeed, value.trimmed]
  rfl

theorem splitKeyValue?_key :
    KeyedLine.splitKeyValue? (Content.key named).text = some (key, []) := by
  have split : KeyedLine.splitKey? (Content.key named).text = some (key, [':']) :=
    KeyedLine.splitKey?_of_isName named (by
      intro c first
      obtain rfl : ':' = c := Option.some.inj first
      decide)
  rw [KeyedLine.splitKeyValue?, split]
  rfl

/-- A line with a key and a value. -/
theorem facts_pair {value : Content} (content : line.content = (Content.pair named value).text) :
    LineFacts.ofLine line =
      { line
        dashed := false
        body := (Content.pair named value).text
        key := some key
        value := value.text } := by
  have notDashed : LineFacts.isDashed (Content.pair named value).text = false :=
    isDashed_named named _
  simp only [LineFacts.ofLine, content, notDashed, Bool.false_eq_true, ↓reduceIte,
    splitKeyValue?_pair, Option.map_some, Option.getD_some]

/-- A line with a key and a value after a list marker. -/
theorem facts_item {value : Content}
    (content : line.content = (Content.pair named value).item.text) :
    LineFacts.ofLine line =
      { line
        dashed := true
        body := (Content.pair named value).text
        key := some key
        value := value.text } := by
  have dashed : LineFacts.isDashed (Content.pair named value).item.text = true := by
    simp [LineFacts.isDashed, Content.item, listItemText, List.isPrefixOf]
  have body : Text.trimStart ((Content.pair named value).item.text.drop 1) =
      (Content.pair named value).text := by
    have isBlank : ∀ c ∈ [' '], Text.isBlank c := by
      intro c member
      rw [List.mem_singleton.mp member]
      rfl
    change Text.trimStart ([' '] ++ (Content.pair named value).text) = _
    exact Text.trimStart_append isBlank fun c rest starts =>
      Text.isBlank_head_trim ((Content.pair named value).trimmed.trans starts)
  simp only [LineFacts.ofLine, content, dashed, ↓reduceIte, body, splitKeyValue?_pair,
    Option.map_some, Option.getD_some]

/-- A line with a key alone. -/
theorem facts_key (content : line.content = (Content.key named).text) :
    LineFacts.ofLine line =
      { line
        dashed := false
        body := (Content.key named).text
        key := some key
        value := [] } := by
  have notDashed : LineFacts.isDashed (Content.key named).text = false := isDashed_named named _
  simp only [LineFacts.ofLine, content, notDashed, Bool.false_eq_true, ↓reduceIte,
    splitKeyValue?_key, Option.map_some, Option.getD_some]

end Facts

/-! ## Roles -/

/-- The content is not empty, and it is no comment and no document marker. -/
structure IsOrdinary (content : Text) : Prop where
  notEmpty : content ≠ []
  noComment : content.head? ≠ some '#'
  noMarker : ['-', '-'].isPrefixOf content = false

theorem isOrdinary_named {key : Text} (named : KeyedLine.isName key) (rest : Text) :
    IsOrdinary (key ++ rest) := by
  cases key with
  | nil => cases named
  | cons c key =>
      rw [KeyedLine.isName, Bool.and_eq_true] at named
      refine ⟨List.cons_ne_nil _ _, ?_, ?_⟩
      · rintro sign
        obtain rfl : c = '#' := Option.some.inj sign
        cases named.1
      · have notDash : c ≠ '-' := by
          rintro rfl
          cases named.1
        simp [List.isPrefixOf, Ne.symm notDash]

theorem isOrdinary_item (content : Content) : IsOrdinary content.item.text :=
  ⟨content.item.notEmpty, by simp [Content.item, listItemText],
    by simp [Content.item, listItemText, List.isPrefixOf]⟩

/-- The role that a key of a task has in its task. -/
def TaskKey.role (key : TaskKey) : Role :=
  if isModule key.text then .moduleInvocation else .taskAttribute

theorem TaskKey.keywordScope? (key : TaskKey) (noModule : ¬ isModule key.text) :
    keywordScope? key.text = some .task ∨ keywordScope? key.text = some .shared :=
  key.belongs.imp_right fun rest => rest.resolve_right noModule

theorem keywordScope?_name : keywordScope? "name".toList = none := by decide +kernel

theorem isModule_name : isModule "name".toList = false := by decide +kernel

theorem TaskKey.ne_name (key : TaskKey) : key.text ≠ "name".toList := by
  intro same
  have belongs := key.belongs
  rw [same, keywordScope?_name, isModule_name] at belongs
  simp at belongs

theorem TaskKey.ne_hosts (key : TaskKey) : key.text ≠ "hosts".toList := by
  have isPlayKeyword : Catalog.keywordScope? "hosts".toList = some .play := by decide +kernel
  intro same
  have belongs := key.belongs
  rw [same, isPlayKeyword] at belongs
  rcases belongs with onTask | onBoth | isName
  · cases onTask
  · cases onBoth
  · rw [keywordScope?_of_isModule isName] at isPlayKeyword
    cases isPlayKeyword

section Roles

variable {facts : LineFacts} {around : Surroundings} (ordinary : IsOrdinary facts.content)
include ordinary

/-- A line that is no comment and no document marker is classified by its key. -/
theorem ofFacts_of_isOrdinary :
    Role.ofFacts facts around =
      (((Rule.playHeader facts around).or ((Rule.taskHeader facts around).or
        ((Rule.keyword facts around).or ((Rule.moduleInvocation facts around).or
          ((Rule.shellFragment facts around).or ((Rule.keyValue facts around).or
            (Rule.listItem facts around))))))).getD .continuation) := by
  have marker : Rule.documentMarker facts around = none := by
    have noHyphens :
        ¬ (facts.content = "---".toList || "--- ".toList.isPrefixOf facts.content) := by
      have noMarker := ordinary.noMarker
      intro isMarker
      rcases Bool.or_eq_true_iff.mp isMarker with same | isPrefix
      · rw [of_decide_eq_true same] at noMarker
        cases noMarker
      · obtain ⟨rest, same⟩ := List.isPrefixOf_iff_prefix.mp isPrefix
        rw [← same] at noMarker
        cases noMarker
    rw [Rule.documentMarker, Rule.claimIf, if_neg noHyphens]
  have blank : Rule.blank facts around = none := by
    rw [Rule.blank, Rule.claimIf, if_neg (by simpa using ordinary.notEmpty)]
  have comment : Rule.comment facts around = none := by
    rw [Rule.comment, Rule.claimIf, if_neg (by simpa using ordinary.noComment)]
  simp only [Role.ofFacts, Rule.all, List.findSome?_cons, List.findSome?_nil, marker, blank,
    comment]
  cases Rule.playHeader facts around <;> cases Rule.taskHeader facts around <;>
    cases Rule.keyword facts around <;> cases Rule.moduleInvocation facts around <;>
    cases Rule.shellFragment facts around <;> cases Rule.keyValue facts around <;>
    cases Rule.listItem facts around <;> rfl

/-- A keyed line without a list marker that is no header is told by its keyword or its module. -/
theorem ofFacts_of_key {key : Text} (hasKey : facts.key = some key) (noHosts : key ≠ "hosts".toList)
    (noName : key ≠ "name".toList) {role : Role}
    (claims : (Rule.keyword facts around).or (Rule.moduleInvocation facts around) = some role) :
    Role.ofFacts facts around = role := by
  have hosts : facts.hasKey "hosts" = false := by
    rw [LineFacts.hasKey, hasKey]
    simpa using noHosts
  have name : facts.hasKey "name" = false := by
    rw [LineFacts.hasKey, hasKey]
    simpa using noName
  have playHeader : Rule.playHeader facts around = none := by
    simp only [Rule.playHeader, hosts, name, Bool.false_and, Bool.false_eq_true, ↓reduceIte]
  have taskHeader : Rule.taskHeader facts around = none := by
    simp only [Rule.taskHeader, name, Bool.not_false, ↓reduceIte]
  rw [ofFacts_of_isOrdinary ordinary, playHeader, taskHeader, Option.none_or, Option.none_or,
    ← Option.or_assoc, claims]
  rfl

/-- In its task a key of a task is a keyword or the action of the task. -/
theorem role_taskKey (key : TaskKey) (notDashed : facts.dashed = false)
    (hasKey : facts.key = some key.text) (inTask : Rule.isTaskScope around facts.indent) :
    Role.ofFacts facts around = key.role := by
  refine ofFacts_of_key ordinary hasKey key.ne_hosts key.ne_name ?_
  unfold TaskKey.role
  split
  · next named =>
      have keyword : Rule.keyword facts around = none := by
        simp only [Rule.keyword, notDashed, hasKey, Option.bind_some,
          keywordScope?_of_isModule named, Bool.false_eq_true, ↓reduceIte]
      rw [keyword, Rule.moduleInvocation, notDashed, hasKey]
      simp [Rule.claimIf, named]
  · next noModule =>
      have keyword : Rule.keyword facts around = some .taskAttribute := by
        rcases key.keywordScope? noModule with onTask | onBoth
        · simp only [Rule.keyword, notDashed, hasKey, Option.bind_some, onTask,
            Bool.false_eq_true, ↓reduceIte]
        · simp only [Rule.keyword, notDashed, hasKey, Option.bind_some, onBoth, inTask,
            Bool.false_eq_true, ↓reduceIte]
      rw [keyword]
      rfl

/-- Outside a task a keyword of a play belongs to the play. -/
theorem role_playKeyword {key : Text} (notDashed : facts.dashed = false)
    (hasKey : facts.key = some key) (noHosts : key ≠ "hosts".toList)
    (belongs : keywordScope? key = some .play ∨
      keywordScope? key = some .shared ∧ Rule.isTaskScope around facts.indent = false) :
    Role.ofFacts facts around = .playAttribute := by
  have noName : key ≠ "name".toList := by
    rintro rfl
    rw [keywordScope?_name] at belongs
    exact belongs.elim nofun fun rest => nomatch rest.1
  refine ofFacts_of_key ordinary hasKey noHosts noName ?_
  have keyword : Rule.keyword facts around = some .playAttribute := by
    rcases belongs with onPlay | ⟨onBoth, outside⟩
    · simp only [Rule.keyword, notDashed, hasKey, Option.bind_some, onPlay,
        Bool.false_eq_true, ↓reduceIte]
    · simp only [Rule.keyword, notDashed, hasKey, Option.bind_some, onBoth, outside,
        Bool.false_eq_true, ↓reduceIte]
  rw [keyword]
  rfl

theorem role_playItem (dashed : facts.dashed = true) (hasKey : facts.key = some "hosts".toList) :
    Role.ofFacts facts around = .playHeader := by
  have hosts : facts.hasKey "hosts" = true := by simp [LineFacts.hasKey, hasKey]
  have playHeader : Rule.playHeader facts around = some .playHeader := by
    simp [Rule.playHeader, hosts, dashed, Rule.claimIf]
  rw [ofFacts_of_isOrdinary ordinary, playHeader]
  rfl

section Name

variable (hasKey : facts.key = some "name".toList)
  (inPlay : around.kind = .playbook → around.playOpen = true)
include hasKey inPlay

omit ordinary in
/-- A name opens no play where one is open, unless it is a list item with `hosts` below it. -/
theorem playHeader_name
    (noHosts : around.kind = .playbook → facts.dashed = true → around.itemHasHosts = false) :
    Rule.playHeader facts around = none := by
  have hosts : facts.hasKey "hosts" = false := by
    rw [LineFacts.hasKey, hasKey]
    decide
  unfold Rule.playHeader
  rw [hosts, if_neg (by decide)]
  split
  · next isName =>
      have isPlaybook := of_decide_eq_true (Bool.and_eq_true_iff.mp isName).2
      have noPlay : ¬ (!around.playOpen || (facts.dashed && around.itemHasHosts)) := by
        cases dashed : facts.dashed with
        | true => simp [inPlay isPlaybook, noHosts isPlaybook dashed]
        | false => simp [inPlay isPlaybook]
      rw [Rule.claimIf, if_neg noPlay]
  · rfl

theorem role_taskItem (dashed : facts.dashed = true)
    (noHosts : around.kind = .playbook → around.itemHasHosts = false) :
    Role.ofFacts facts around = .taskHeader true := by
  have taskHeader : Rule.taskHeader facts around = some (.taskHeader true) := by
    simp [Rule.taskHeader, LineFacts.hasKey, hasKey, dashed]
  rw [ofFacts_of_isOrdinary ordinary,
    playHeader_name hasKey inPlay (fun isPlaybook _ => noHosts isPlaybook), taskHeader]
  rfl

/-- A name without a list marker opens a task where one may start. -/
theorem role_bareName (notDashed : facts.dashed = false)
    (mayStart : around.inTaskSection = true ∨ around.kind ≠ .playbook)
    (noBlock : around.previousOpensBlock = false)
    (notBelow : Rule.isBelowTask around facts.indent = false) :
    Role.ofFacts facts around = .taskHeader false := by
  have taskHeader : Rule.taskHeader facts around = some (.taskHeader false) := by
    have isName : facts.hasKey "name" = true := by simp [LineFacts.hasKey, hasKey]
    have may : (around.inTaskSection || around.kind ≠ .playbook) = true := by simpa using mayStart
    simp only [Rule.taskHeader, isName, notDashed, may, noBlock, notBelow, Rule.claimIf,
      Bool.not_true, Bool.not_false, Bool.and_self, Bool.false_eq_true, ↓reduceIte]
  rw [ofFacts_of_isOrdinary ordinary,
    playHeader_name hasKey inPlay (by simp [notDashed]), taskHeader]
  rfl

/-- Directly below a key that waits for its value a name is a key like any other. -/
theorem role_nameBelowKey {value : Text} (notDashed : facts.dashed = false)
    (content : facts.content = "name: ".toList ++ value)
    (opened : around.previousOpensBlock = true) : Role.ofFacts facts around = .keyValue := by
  have taskHeader : Rule.taskHeader facts around = none := by
    simp [Rule.taskHeader, LineFacts.hasKey, hasKey, notDashed, Rule.claimIf, opened]
  have keyword : Rule.keyword facts around = none := by
    rw [Rule.keyword, if_neg (by simp [notDashed]), hasKey, Option.bind_some, keywordScope?_name]
  have noModule : Rule.moduleInvocation facts around = none := by
    rw [Rule.moduleInvocation, hasKey, Option.any_some, isModule_name, Bool.and_false]
    rfl
  have noFragment : Rule.shellFragment facts around = none := by
    have fits : ShellFamily.ofContent? ("name: ".toList ++ value) = none := by rfl
    rw [Rule.shellFragment, content, fits]
    rfl
  have keyValue : Rule.keyValue facts around = some .keyValue := by
    simp [Rule.keyValue, notDashed, hasKey, Rule.claimIf]
  rw [ofFacts_of_isOrdinary ordinary,
    playHeader_name hasKey inPlay (by simp [notDashed]), taskHeader, keyword, noModule,
    noFragment, keyValue]
  rfl

end Name

end Roles

end Tidy

end PlaybookRepair
