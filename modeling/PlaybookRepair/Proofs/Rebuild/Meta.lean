import PlaybookRepair.MetaRebuild
import PlaybookRepair.Proofs.SecondRepair
import PlaybookRepair.Proofs.Yaml.Layout

/-!
# Metadata that reads back

The rebuilt metadata of a role is one mapping, with the strings of the template where they belong, if
all of these strings are faithful: each is a text on one line of characters that YAML allows, and one
that is written without quotes is not a number in a notation of YAML's own and has no tab beside a
colon or a number sign. `readSingle_rebuildMeta` says so for all texts and defaults, and
`rebuildMeta_rejected` shows what a tab does.
-/

namespace PlaybookRepair

open Yaml (Value Phrase Word LaidEntry LaidItem hanging laidSequence laidString Follows)

namespace MetaRebuild

/-- The scalar fields that the template has a value for, in its order. -/
def fields (defaults : MetaDefaults) (lines : List LineFacts) : List (MetaField × Text) :=
  MetaField.all.filterMap fun field =>
    ((field.salvage? lines).or (field.default? defaults)).map (field, ·)

/-- The strings that the template holds. -/
def strings (defaults : MetaDefaults) (lines : List LineFacts) : List Text :=
  (fields defaults lines).map Prod.snd ++
    defaults.platforms.flatMap (fun platform => platform.name :: platform.versions) ++
    defaults.galaxyTags

/-- The value of the template. -/
def value (defaults : MetaDefaults) (lines : List LineFacts) : Value :=
  let platform := fun platform : Platform =>
    Value.mapping [(.string "name".toList, .string platform.name),
      (.string "versions".toList, .sequence (platform.versions.map .string))]
  .mapping [
    (.string "galaxy_info".toList, .mapping (
      (fields defaults lines).map (fun field => (.string field.1.key, .string field.2)) ++
      [(.string "platforms".toList, .sequence (defaults.platforms.map platform)),
        (.string "galaxy_tags".toList, .sequence (defaults.galaxyTags.map .string))])),
    (.string "dependencies".toList, .sequence [])]

/-! ## The layout of the template -/

/-- A string as an item. -/
def laidItem (value : Text) : LaidItem := ⟨InlineValue.plainOrQuoted value ++ ['\n'], .written value⟩

/-- The entries of a platform. -/
def platformEntries (platform : Platform) : List LaidEntry :=
  [laidString "name".toList platform.name,
    laidSequence 6 "versions".toList (platform.versions.map laidItem)]

/-- The mapping of entries at a column. -/
def laidMapping (column : Nat) (entries : List LaidEntry) : LaidItem :=
  ⟨hanging column (entries.map LaidEntry.lines),
    .mapping (entries.map LaidEntry.pair)⟩

/-- The entries below `galaxy_info`. -/
def infoEntries (defaults : MetaDefaults) (lines : List LineFacts) : List LaidEntry :=
  (fields defaults lines).map (fun field => laidString field.1.key field.2) ++
    [laidSequence 2 "platforms".toList
        (defaults.platforms.map fun platform => laidMapping 6 (platformEntries platform)),
      laidSequence 2 "galaxy_tags".toList (defaults.galaxyTags.map laidItem)]

/-- The entries of the template. -/
def rootEntries (defaults : MetaDefaults) (lines : List LineFacts) : List LaidEntry :=
  let info := laidMapping 2 (infoEntries defaults lines)
  [{ key := "galaxy_info".toList
     text := '\n' :: List.replicate 2 ' ' ++ info.text ++ ['\n']
     value := info.value },
    laidSequence 0 "dependencies".toList []]

theorem indent_append_hanging (column : Nat) {parts : List Text} (nonempty : parts ≠ []) :
    List.replicate column ' ' ++ hanging column parts =
      parts.flatMap (List.replicate column ' ' ++ ·) := by
  obtain ⟨first, later, rfl⟩ := List.exists_cons_of_ne_nil nonempty
  simp [hanging]

theorem unlines_append (first last : List Text) :
    Text.unlines (first ++ last) = Text.unlines first ++ Text.unlines last :=
  List.flatMap_append

variable (defaults : MetaDefaults) (lines : List LineFacts)

theorem lines_laidSequence {column : Nat} {key : Text} {items : List LaidItem}
    (nonempty : items ≠ []) :
    (laidSequence column key items).lines =
      key ++ ':' :: '\n' :: items.flatMap fun item =>
        List.replicate (column + 2) ' ' ++ item.lines := by
  have parts : items.map LaidItem.lines ≠ [] := by simpa using nonempty
  simp only [LaidEntry.lines, laidSequence, List.isEmpty_iff, nonempty, ↓reduceIte,
    List.cons_append, indent_append_hanging _ parts, List.flatMap_map]

theorem unlines_listLines (column : Nat) (key : String) (items : List Text) :
    Text.unlines (listLines (List.replicate column ' ') key items) =
      List.replicate column ' ' ++ (laidSequence column key.toList (items.map laidItem)).lines := by
  by_cases empty : items = []
  · subst empty
    simp [listLines, Text.unlines, laidSequence, LaidEntry.lines]
  · rw [lines_laidSequence (by simpa using empty)]
    simp [listLines, Text.unlines, empty, laidItem, LaidItem.lines, List.flatMap_map,
      List.replicate_succ']

theorem unlines_fields :
    Text.unlines (MetaField.all.filterMap (fieldLine? defaults lines)) =
      (fields defaults lines).flatMap fun field =>
        List.replicate 2 ' ' ++ (laidString field.1.key field.2).lines := by
  have line : fieldLine? defaults lines = fun field =>
      (((field.salvage? lines).or (field.default? defaults)).map (field, ·)).map fun field =>
        List.replicate 2 ' ' ++ field.1.key ++ ": ".toList ++
          InlineValue.plainOrQuoted field.2 := by
    funext field
    rw [Option.map_map]
    rfl
  rw [line, ← List.map_filterMap]
  simp [fields, Text.unlines, List.flatMap_map, laidString, LaidEntry.lines]

theorem unlines_platformLines (platform : Platform) :
    Text.unlines (platformLines platform) =
      List.replicate 4 ' ' ++ (laidMapping 6 (platformEntries platform)).lines := by
  have versions := unlines_listLines 6 "versions" platform.versions
  simp only [platformLines, Text.unlines, List.flatMap_cons] at versions ⊢
  rw [show "      ".toList = List.replicate 6 ' ' from rfl, versions]
  simp [laidMapping, LaidItem.lines, hanging, platformEntries, laidString, LaidEntry.lines]

theorem unlines_platformsLines :
    Text.unlines (platformsLines defaults.platforms) =
      List.replicate 2 ' ' ++ (laidSequence 2 "platforms".toList
        (defaults.platforms.map fun platform => laidMapping 6 (platformEntries platform))).lines := by
  by_cases empty : defaults.platforms = []
  · simp [empty, platformsLines, Text.unlines, laidSequence, LaidEntry.lines]
  · rw [lines_laidSequence (by simpa using empty)]
    have parts := fun platform : Platform => unlines_platformLines platform
    simp only [Text.unlines] at parts
    simp [platformsLines, Text.unlines, empty, List.flatMap_map, List.flatMap_assoc, parts]

/-- The text of the template is the layout of its entries. -/
theorem unlines_templateLines :
    Text.unlines (templateLines defaults lines) =
      "---\n".toList ++ hanging 0 ((rootEntries defaults lines).map LaidEntry.lines) := by
  have info : (infoEntries defaults lines).map LaidEntry.lines ≠ [] := by simp [infoEntries]
  have below : hanging 0 ((rootEntries defaults lines).map LaidEntry.lines) =
      "galaxy_info:\n".toList ++ (infoEntries defaults lines).flatMap (fun entry =>
        List.replicate 2 ' ' ++ entry.lines) ++ "\ndependencies: []\n".toList := by
    have indented := indent_append_hanging 2 info
    rw [List.flatMap_map] at indented
    rw [← indented]
    simp [rootEntries, hanging, laidMapping, LaidEntry.lines, laidSequence]
  have tags := unlines_listLines 2 "galaxy_tags" defaults.galaxyTags
  rw [below]
  simp only [templateLines, unlines_append, unlines_fields, unlines_platformsLines,
    show "  ".toList = List.replicate 2 ' ' from rfl, tags]
  simp [infoEntries, Text.unlines, List.flatMap_map]

/-! ## The template is sound -/

theorem isName_key (field : MetaField) : KeyedLine.isName field.key := by
  cases field <;> decide

theorem isWritten_key (field : MetaField) : (Word.plain field.key).IsWritten field.key := by
  have short : field.key.length ≤ Yaml.maxKeyLength := by cases field <;> decide
  have resolves : Yaml.Scalar.resolve field.key = .ok (.string field.key) := by cases field <;> rfl
  exact Word.isWritten_plain (Yaml.TokenReader.isKey_of_isName (isName_key field) short) resolves

variable {defaults lines}

/-- The literal keys of the template. -/
theorem isWritten_literal {key : Text}
    (known : key ∈ ["galaxy_info", "dependencies", "platforms", "galaxy_tags", "name",
      "versions"].map String.toList) : (Word.plain key).IsWritten key := by
  have named : KeyedLine.isName key ∧ key.length ≤ Yaml.maxKeyLength := by
    revert key
    decide
  refine Word.isWritten_plain (Yaml.TokenReader.isKey_of_isName named.1 named.2) ?_
  simp only [List.map_cons, List.map_nil, List.mem_cons, List.not_mem_nil, or_false] at known
  obtain rfl | rfl | rfl | rfl | rfl | rfl := known <;> rfl

theorem isLaid_laidItem {most column : Nat} {values : List Text}
    (faithful : ∀ value ∈ values, InlineValue.IsFaithful value) :
    ∀ item ∈ values.map laidItem, item.IsLaid most column := by
  intro item member
  obtain ⟨value, among, rfl⟩ := List.mem_map.mp member
  exact LaidItem.isLaid_written (faithful value among)

theorem isSound_list {values : List Text}
    (faithful : ∀ value ∈ values, InlineValue.IsFaithful value) :
    (Phrase.sequence (values.map Phrase.written)).IsSound 1 := by
  refine Phrase.isSound_sequence fun item member => ?_
  obtain ⟨value, among, rfl⟩ := List.mem_map.mp member
  exact Phrase.isSound_written (faithful value among)

section Platform

variable {platform : Platform}
  (faithful : ∀ value ∈ platform.name :: platform.versions, InlineValue.IsFaithful value)

include faithful

theorem isLaid_platformEntries : ∀ entry ∈ platformEntries platform, entry.IsLaid 1 6 := by
  obtain ⟨name, versions⟩ := List.forall_mem_cons.mp faithful
  simp only [platformEntries, List.forall_mem_cons, List.not_mem_nil, false_implies, implies_true,
    and_true]
  exact ⟨Yaml.isLaid_laidString (isWritten_literal (by decide)) name,
    Yaml.isLaid_laidSequence (isWritten_literal (by decide)) (isLaid_laidItem versions)⟩

theorem isSound_platform : (laidMapping 6 (platformEntries platform)).value.IsSound 2 := by
  obtain ⟨name, versions⟩ := List.forall_mem_cons.mp faithful
  have list := isSound_list versions
  refine Yaml.isSound_entries (isLaid_platformEntries faithful) ?_ ?_
  · simp [platformEntries, laidString, laidSequence, Word.plain, Value.same]
  · simp [platformEntries, laidString, laidSequence, Function.comp_def, laidItem]
    exact ⟨((Phrase.isSound_written name).mono (by omega)).toIsValue, list.toIsValue⟩

end Platform

/-- The fields have the keys of the template in its order. -/
theorem map_key_fields_sublist :
    List.Sublist ((fields defaults lines).map fun field => field.1.key)
      (MetaField.all.map MetaField.key) := by
  have own : (fields defaults lines).map Prod.fst =
      MetaField.all.filter fun field =>
        ((field.salvage? lines).or (field.default? defaults)).isSome := by
    simp only [fields, List.map_filterMap, Option.map_map]
    rw [← List.filterMap_eq_filter]
    congr 1
    funext field
    cases held : (field.salvage? lines).or (field.default? defaults) <;> simp [held, Option.guard]
  have := (own ▸ List.filter_sublist : List.Sublist ((fields defaults lines).map Prod.fst) _)
  simpa [List.map_map, Function.comp_def] using this.map MetaField.key

/-- No two entries below `galaxy_info` have the same key. -/
theorem pairwise_infoEntries :
    (infoEntries defaults lines).Pairwise fun first later =>
      first.scalar.value.same later.scalar.value = false := by
  have keys : (infoEntries defaults lines).map (fun entry => entry.scalar.value) =
      ((fields defaults lines).map (fun field => field.1.key) ++
        ["platforms".toList, "galaxy_tags".toList]).map .string := by
    simp [infoEntries, laidString, laidSequence, Word.plain, Function.comp_def]
  have distinct : ((fields defaults lines).map (fun field => field.1.key) ++
      ["platforms".toList, "galaxy_tags".toList]).Pairwise (· ≠ ·) :=
    List.Pairwise.sublist (map_key_fields_sublist.append_right _) (by decide)
  rw [← List.pairwise_map (f := fun entry : LaidEntry => entry.scalar.value)
    (R := fun first later => first.same later = false), keys, List.pairwise_map]
  exact distinct.imp fun other => by simp [Value.same, other]

section Template

variable (faithful : ∀ value ∈ strings defaults lines, InlineValue.IsFaithful value)

include faithful

theorem faithful_fields : ∀ field ∈ fields defaults lines, InlineValue.IsFaithful field.2 :=
  fun field member => faithful field.2 (by
    simp only [strings, List.mem_append, List.mem_map]
    exact .inl (.inl ⟨field, member, rfl⟩))

theorem faithful_platforms : ∀ platform ∈ defaults.platforms,
    ∀ value ∈ platform.name :: platform.versions, InlineValue.IsFaithful value :=
  fun platform member value among => faithful value (by
    simp only [strings, List.mem_append, List.mem_flatMap]
    exact .inl (.inr ⟨platform, member, among⟩))

theorem faithful_galaxyTags : ∀ value ∈ defaults.galaxyTags, InlineValue.IsFaithful value :=
  fun value member => faithful value (by simp only [strings, List.mem_append, member, or_true])

theorem isLaid_infoEntries : ∀ entry ∈ infoEntries defaults lines, entry.IsLaid 1 2 := by
  have platforms : ∀ item ∈ defaults.platforms.map fun platform =>
      laidMapping 6 (platformEntries platform), item.IsLaid 1 4 := by
    intro item member
    obtain ⟨platform, among, rfl⟩ := List.mem_map.mp member
    exact (Yaml.lays_mapping (isLaid_platformEntries (faithful_platforms faithful platform among))
      (List.cons_ne_nil _ _)).isLaid
  intro entry member
  simp only [infoEntries, List.mem_append, List.mem_map, List.mem_cons, List.not_mem_nil,
    or_false] at member
  obtain ⟨field, among, rfl⟩ | rfl | rfl := member
  · exact Yaml.isLaid_laidString (isWritten_key field.1) (faithful_fields faithful field among)
  · exact Yaml.isLaid_laidSequence (isWritten_literal (by decide)) platforms
  · exact Yaml.isLaid_laidSequence (isWritten_literal (by decide))
      (isLaid_laidItem (faithful_galaxyTags faithful))

theorem isLaid_rootEntries : ∀ entry ∈ rootEntries defaults lines, entry.IsLaid 0 0 := by
  have nonempty : infoEntries defaults lines ≠ [] := by simp [infoEntries]
  have info := (Yaml.lays_mapping (isLaid_infoEntries faithful) nonempty).follows
    (by decide : 0 < 2)
  simp only [rootEntries, List.forall_mem_cons, List.not_mem_nil, false_implies, implies_true,
    and_true]
  have key : (Word.plain "galaxy_info".toList).IsWritten "galaxy_info".toList :=
    isWritten_literal (by decide)
  refine ⟨⟨key, ⟨by simp, by rintro _ ⟨⟩; decide⟩, info.blank⟩, ?_⟩
  exact Yaml.isLaid_laidSequence (isWritten_literal (by decide)) nofun

theorem isSound_info : (laidMapping 2 (infoEntries defaults lines)).value.IsSound 4 := by
  refine Yaml.isSound_entries (isLaid_infoEntries faithful) pairwise_infoEntries ?_
  intro entry member
  simp only [infoEntries, List.mem_append, List.mem_map, List.mem_cons, List.not_mem_nil,
    or_false] at member
  obtain ⟨field, held, rfl⟩ | rfl | rfl := member
  · have string := Phrase.isSound_written (faithful_fields faithful field held)
    exact (string.mono (by decide)).toIsValue
  · refine (Phrase.isSound_sequence fun item member => ?_).toIsValue
    rw [List.map_map] at member
    obtain ⟨platform, held, rfl⟩ := List.mem_map.mp member
    exact (isSound_platform (faithful_platforms faithful platform held)).mono (by decide)
  · simpa [laidSequence, laidItem, Function.comp_def] using
      ((isSound_list (faithful_galaxyTags faithful)).mono (by decide : 1 ≤ 3)).toIsValue

/-- The mapping of the template. -/
theorem isSound_root : (laidMapping 0 (rootEntries defaults lines)).value.IsSound 5 := by
  refine Yaml.isSound_entries (isLaid_rootEntries faithful) ?_ ?_
  · simp [rootEntries, laidSequence, Word.plain, Value.same]
  · have list : (Phrase.sequence []).IsSound 4 :=
      (Phrase.isSound_sequence (List.forall_mem_nil _)).mono (by decide : 1 ≤ 4)
    simp only [rootEntries, laidSequence, List.map_nil, List.forall_mem_cons, List.not_mem_nil,
      false_implies, implies_true, and_true]
    exact ⟨(isSound_info faithful).toIsValue, list.toIsValue⟩

end Template

theorem value_root :
    (laidMapping 0 (rootEntries defaults lines)).value.value = value defaults lines := by
  simp [laidMapping, rootEntries, infoEntries, platformEntries, laidSequence, laidString, laidItem,
    LaidEntry.pair, Word.plain, Phrase.mapping, Phrase.sequence, Phrase.written, Phrase.string,
    Phrase.word, value, Function.comp_def]

/-! ## Characters of the template -/

theorem allowed_plainOrQuoted {value : Text} (faithful : InlineValue.IsFaithful value) :
    ∀ c ∈ InlineValue.plainOrQuoted value, Yaml.isAllowed c := by
  intro c member
  unfold InlineValue.plainOrQuoted at member
  split at member
  · obtain own | rfl | rfl := InlineValue.mem_of_mem_doubleQuoted member
    · exact (faithful.onOneLine c own).1
    · decide
    · decide
  · exact (faithful.onOneLine c member).1

theorem allowed_listLines {indent : Text} {key : String} {items : List Text}
    (indented : ∀ c ∈ indent, Yaml.isAllowed c) (named : ∀ c ∈ key.toList, Yaml.isAllowed c)
    (faithful : ∀ item ∈ items, InlineValue.IsFaithful item) :
    ∀ line ∈ listLines indent key items, ∀ c ∈ line, Yaml.isAllowed c := by
  unfold listLines
  split
  · simp only [List.forall_mem_singleton, List.forall_mem_append]
    exact ⟨⟨indented, named⟩, by decide⟩
  · simp only [List.forall_mem_cons, List.forall_mem_append, List.forall_mem_map]
    exact ⟨⟨⟨indented, named⟩, by decide⟩, fun item member =>
      ⟨⟨indented, by decide⟩, allowed_plainOrQuoted (faithful item member)⟩⟩

/-- YAML allows the characters of the template. -/
theorem allowed_templateLines
    (faithful : ∀ value ∈ strings defaults lines, InlineValue.IsFaithful value) :
    ∀ line ∈ templateLines defaults lines, ∀ c ∈ line, Yaml.isAllowed c := by
  have fieldLines : ∀ line ∈ MetaField.all.filterMap (fieldLine? defaults lines), ∀ c ∈ line,
      Yaml.isAllowed c := by
    intro line member
    obtain ⟨field, among, held⟩ := List.mem_filterMap.mp member
    obtain ⟨value, found, rfl⟩ := Option.map_eq_some_iff.mp held
    have key : ∀ c ∈ field.key, Yaml.isAllowed c := by cases field <;> decide
    have own : (field, value) ∈ fields defaults lines :=
      List.mem_filterMap.mpr ⟨field, among, by rw [found]; rfl⟩
    simp only [List.forall_mem_append]
    exact ⟨⟨⟨by decide, key⟩, by decide⟩, allowed_plainOrQuoted (faithful_fields faithful _ own)⟩
  have platformLines : ∀ line ∈ platformsLines defaults.platforms, ∀ c ∈ line,
      Yaml.isAllowed c := by
    unfold platformsLines
    split
    · decide
    · simp only [List.forall_mem_cons, List.forall_mem_flatMap, platformLines,
        List.forall_mem_append]
      refine ⟨by decide, fun platform member => ?_⟩
      obtain ⟨name, versions⟩ := List.forall_mem_cons.mp (faithful_platforms faithful platform member)
      exact ⟨⟨by decide, allowed_plainOrQuoted name⟩,
        allowed_listLines (by decide) (by decide) versions⟩
  have tags : ∀ line ∈ listLines "  ".toList "galaxy_tags" defaults.galaxyTags, ∀ c ∈ line,
      Yaml.isAllowed c :=
    allowed_listLines (by decide) (by decide) (faithful_galaxyTags faithful)
  simp only [templateLines, List.forall_mem_append]
  exact ⟨⟨⟨⟨by decide, fieldLines⟩, platformLines⟩, tags⟩, by decide⟩

end MetaRebuild

/-- **The rebuilt metadata reads back.** If the strings of the template are faithful, its text is one
YAML document, the value of the template, and it is accepted as the metadata of a role. -/
theorem readSingle_rebuildMeta (defaults : MetaDefaults) (text : Text)
    (faithful : ∀ value ∈ MetaRebuild.strings defaults ((Line.ofText text).map LineFacts.ofLine),
      InlineValue.IsFaithful value) :
    Yaml.readSingle (rebuildMeta defaults text).text =
        .ok (MetaRebuild.value defaults ((Line.ofText text).map LineFacts.ofLine)) ∧
      FileKind.roleMeta.accepts (rebuildMeta defaults text).text := by
  generalize scanned : (Line.ofText text).map LineFacts.ofLine = lines at faithful
  have layout : (rebuildMeta defaults text).text =
      "---\n".toList ++ hanging 0 ((MetaRebuild.rootEntries defaults lines).map LaidEntry.lines) := by
    rw [← MetaRebuild.unlines_templateLines, ← scanned]
    rfl
  have allowed := Yaml.allowed_unlines (MetaRebuild.allowed_templateLines faithful)
  rw [MetaRebuild.unlines_templateLines] at allowed
  obtain ⟨document, documents, value⟩ := Yaml.documents_eq_of_isLaid
    (MetaRebuild.isLaid_rootEntries faithful) (List.cons_ne_nil _ _)
    (MetaRebuild.isSound_root faithful) (by decide)
    (fun c member => allowed c (List.mem_append_right _ member))
  have read : document.value = .ok (MetaRebuild.value defaults lines) :=
    value.trans (congrArg Except.ok MetaRebuild.value_root)
  rw [FileKind.accepts_iff, FileKind.verify, layout, Yaml.readSingle, documents]
  constructor
  · simp only [read, bind, Except.bind, pure, Except.pure, List.isEmpty_nil, ↓reduceIte]
  · simp only [FileKind.checkDocuments, read]
    rfl

/-- Metadata with a company that needs quotes, and the defaults for the rest. -/
theorem readSingle_rebuildMeta_company :
    let text := "galaxy_info:\n company: 'a: b'\n".toList
    (∀ value ∈ MetaRebuild.strings {} ((Line.ofText text).map LineFacts.ofLine),
      InlineValue.IsFaithful value) ∧
    ((Yaml.readSingle (rebuildMeta {} text).text).toOption.bind fun value =>
      (value.entry? "galaxy_info".toList).bind fun info => info.entry? "company".toList) =
        some (.string "a: b".toList) ∧
    FileKind.roleMeta.accepts (rebuildMeta {} text).text := by
  intro text
  have faithful : ∀ value ∈ MetaRebuild.strings {} ((Line.ofText text).map LineFacts.ofLine),
      InlineValue.IsFaithful value := by decide +kernel
  obtain ⟨read, accepted⟩ := readSingle_rebuildMeta {} text faithful
  refine ⟨faithful, ?_, accepted⟩
  rw [read]
  rfl

/-- A tab after a colon starts the value of a key for YAML, and not for the choice of quotes. -/
theorem rebuildMeta_rejected :
    FileKind.roleMeta.accepts (rebuildMeta {} "author: a:\tb\n".toList).text = false := by
  decide +kernel

end PlaybookRepair
