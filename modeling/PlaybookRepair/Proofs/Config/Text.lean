import PlaybookRepair.Config.Reading
import PlaybookRepair.Proofs.Toml.Document

/-!
# The text of a configuration read back

A record is written field by field, those that are not set being left out, and read by looking up
each field in the table that its text describes. A field that is left out is read as its default,
which is that it is not set. The overrides are the last entry of the table of a whole configuration,
and their platforms are the last entry of their own table, so that no header takes in keys that do
not belong under it.
-/

namespace PlaybookRepair.Config

open Toml (Entries Value)
open Toml.Document

theorem pairLine?_some (key : String) (text : Text) :
    pairLine? key (some text) = pairLine key text := rfl

/-! ## Fields -/

/-- A field: its key and, if it is set, the text that is written for its value, and that value. -/
structure Field where
  key : String
  content : Option (Text × Value)

namespace Field

variable {field : Field} {fields : List Field}

/-- The line of a field that is set. -/
def line (field : Field) : Text := pairLine? field.key (field.content.map Prod.fst)

/-- The key and the value of a field that is set. -/
def keyed? (field : Field) : Option (Text × Value) :=
  field.content.map fun content => (field.key.toList, content.2)

/-- The entries of the fields that are set. -/
def entries (fields : List Field) : Entries := fields.filterMap keyed?

/-- A field that is always set. -/
def always (key : String) (text : Text) (value : Value) : Field := ⟨key, some (text, value)⟩

/-- A field of a string. -/
def string (key : String) (value : Option Text) : Field :=
  ⟨key, value.map fun text => (Toml.QuotedString.write text, .string text)⟩

/-- A field of a sequence of strings. -/
def strings (key : String) (value : Option (List Text)) : Field :=
  ⟨key, value.map fun texts => (stringsText texts, .array false (texts.map .string))⟩

@[simp]
theorem line_always (key : String) (text : Text) (value : Value) :
    (always key text value).line = pairLine key text := rfl

@[simp]
theorem line_string (key : String) (value : Option Text) :
    (string key value).line = pairLine? key (value.map Toml.QuotedString.write) := by
  cases value <;> rfl

@[simp]
theorem line_strings (key : String) (value : Option (List Text)) :
    (strings key value).line = pairLine? key (value.map stringsText) := by
  cases value <;> rfl

/-- The key can stand without quotes and the text is read as the value. -/
structure IsSound (field : Field) : Prop where
  isKey : IsKey field.key.toList
  writes : ∀ content ∈ field.content, Writes content.1 content.2

theorem isSound_always {key : String} {text : Text} {value : Value} (isKey : IsKey key.toList)
    (writes : Writes text value) : (always key text value).IsSound where
  isKey := isKey
  writes := by
    rintro _ ⟨⟩
    exact writes

theorem isSound_string {key : String} (isKey : IsKey key.toList) (value : Option Text) :
    (string key value).IsSound where
  isKey := isKey
  writes content member := by
    obtain ⟨text, -, rfl⟩ := Option.map_eq_some_iff.mp member
    exact writes_string text

theorem isSound_strings {key : String} (isKey : IsKey key.toList) (value : Option (List Text)) :
    (strings key value).IsSound where
  isKey := isKey
  writes content member := by
    obtain ⟨texts, -, rfl⟩ := Option.map_eq_some_iff.mp member
    exact writes_strings texts

theorem IsSound.states (sound : field.IsSound) :
    States field.line (pairsOf field.keyed?.toList) := by
  obtain ⟨key, content⟩ := field
  cases content with
  | none => exact States.nil
  | some content => exact states_pairLine sound.isKey (sound.writes content rfl)

theorem entries_cons (field : Field) (fields : List Field) :
    entries (field :: fields) = field.keyed?.toList ++ entries fields := by
  rw [entries, List.filterMap_cons]
  cases field.keyed? <;> rfl

/-- The lines of a record state its entries. -/
theorem states_lines (sound : ∀ field ∈ fields, field.IsSound) :
    States (fields.flatMap line) (pairsOf (entries fields)) := by
  induction fields with
  | nil => exact States.nil
  | cons field fields ih =>
    rw [List.flatMap_cons, entries_cons, pairsOf, List.map_append]
    exact (sound field List.mem_cons_self).states.append
      (ih fun other member => sound other (List.mem_cons_of_mem field member))

theorem distinct_entries (distinct : (fields.map key).Nodup) : (entries fields).Distinct := by
  refine List.pairwise_filterMap.mpr ((List.pairwise_map.mp distinct).imp ?_)
  rintro first second apart _ gives _ givesToo same
  obtain ⟨_, -, rfl⟩ := Option.map_eq_some_iff.mp gives
  obtain ⟨_, -, rfl⟩ := Option.map_eq_some_iff.mp givesToo
  exact apart (String.toList_injective same)

theorem entries_absent {key : String}
    (absent : ∀ field ∈ fields, field.key = key → field.content = none) :
    ∀ entry ∈ entries fields, entry.1 ≠ key.toList := by
  intro entry member same
  obtain ⟨field, among, gives⟩ := List.mem_filterMap.mp member
  obtain ⟨content, isSet, rfl⟩ := Option.map_eq_some_iff.mp gives
  rw [absent field among (String.toList_injective same)] at isSet
  exact absurd isSet.symm (Option.some_ne_none content)

/-- A field is found by its key. -/
theorem lookup_entries (distinct : (fields.map key).Nodup) (field : Field)
    (member : field ∈ fields) :
    (entries fields).lookup field.key.toList = field.content.map Prod.snd := by
  obtain ⟨front, back, rfl⟩ := List.append_of_mem member
  obtain ⟨-, later, apart⟩ := List.pairwise_append.mp (List.pairwise_map.mp distinct)
  have inFront : (entries front).lookup field.key.toList = none :=
    Entries.lookup_absent (entries_absent fun other among same =>
      absurd same (apart other among field List.mem_cons_self))
  have inBack : (entries back).lookup field.key.toList = none :=
    Entries.lookup_absent (entries_absent fun other among same =>
      absurd same.symm ((List.pairwise_cons.mp later).1 other among))
  rw [entries, List.filterMap_append, ← entries, ← entries, entries_cons, List.lookup_append,
    List.lookup_append, inFront, inBack, Option.none_or, Option.or_none]
  cases content : field.content <;> simp [keyed?, content]

theorem values_string (key : String) (value : Option Text) :
    (string key value).content.map Prod.snd = value.map .string := by
  cases value <;> rfl

theorem values_strings (key : String) (value : Option (List Text)) :
    (strings key value).content.map Prod.snd =
      value.map fun texts => .array false (texts.map .string) := by
  cases value <;> rfl

end Field

/-! ## The fields of a configuration -/

variable (config : Config) (overrides : MetaOverrides) (platform : Platform)

/-- The fields of a configuration, the overrides aside. -/
def fields : List Field :=
  [.string "root" config.root, .string "write" (some config.policy.name.toList),
    .always "backup" (booleanText config.backup) (.boolean config.backup),
    .string "backup_suffix" (some config.suffix), .strings "exclude" (some config.exclude),
    .always "jobs" (Text.ofNat config.jobs) (.integer config.jobs)]

/-- The fields of the overrides that have no header of their own. -/
def overridesFields : List Field :=
  [.string "author" overrides.author, .string "description" overrides.description,
    .string "company" overrides.company, .string "license" overrides.license,
    .string "min_ansible_version" overrides.minAnsibleVersion,
    .strings "platforms" (if overrides.platforms = some [] then some [] else none),
    .strings "galaxy_tags" overrides.galaxyTags]

/-- The fields of a platform. -/
def platformFields : List Field :=
  [.string "name" (some platform.name), .strings "versions" (some platform.versions)]

/-- The tables of the platforms. -/
def platformTables : List Entries :=
  (overrides.platforms.getD []).map fun platform => Field.entries (platformFields platform)

/-- The table of the overrides. -/
def overridesEntries : Entries :=
  Entries.withItems "platforms".toList (Field.entries (overridesFields overrides))
    ((platformTables overrides).map (.table .header))

theorem overridesText_eq :
    overridesText overrides = (overridesFields overrides).flatMap Field.line := by
  have platforms :
      (if overrides.platforms = some [] then pairLine "platforms" "[]".toList else []) =
        pairLine? "platforms"
          ((if overrides.platforms = some [] then some [] else none).map stringsText) := by
    split_ifs <;> rfl
  simp only [overridesText, platforms, overridesFields, List.flatMap_cons, List.flatMap_nil,
    Field.line_string, Field.line_strings, List.append_assoc, List.append_nil]

theorem platformText_eq : platformText platform =
    "\n[[meta.platforms]]\n".toList ++ (platformFields platform).flatMap Field.line := by
  have lines : (platformFields platform).flatMap Field.line =
      pairLine "name" (Toml.QuotedString.write platform.name) ++
        pairLine "versions" (stringsText platform.versions) := by
    simp only [platformFields, List.flatMap_cons, List.flatMap_nil, Field.line_string,
      Field.line_strings, pairLine?_some, Option.map_some, List.append_nil]
  rw [lines]
  exact List.append_assoc ..

theorem text_eq :
    text config = (fields config).flatMap Field.line ++ metaText config.overrides := by
  simp only [text, fields, List.flatMap_cons, List.flatMap_nil, Field.line_always,
    Field.line_string, Field.line_strings, pairLine?_some, Option.map_some, List.append_assoc,
    List.append_nil]

/-! ## What the text states -/

variable {config overrides platform}

theorem isSound_fields (jobs : config.jobs < 2 ^ 128) : ∀ field ∈ fields config, field.IsSound := by
  simp only [fields, List.forall_mem_cons, List.not_mem_nil, false_implies, implies_true, and_true]
  exact ⟨Field.isSound_string (by decide) _, Field.isSound_string (by decide) _,
    Field.isSound_always (by decide) (writes_boolean _), Field.isSound_string (by decide) _,
    Field.isSound_strings (by decide) _, Field.isSound_always (by decide) (writes_integer jobs)⟩

theorem isSound_overridesFields : ∀ field ∈ overridesFields overrides, field.IsSound := by
  simp only [overridesFields, List.forall_mem_cons, List.not_mem_nil, false_implies, implies_true,
    and_true]
  exact ⟨Field.isSound_string (by decide) _, Field.isSound_string (by decide) _,
    Field.isSound_string (by decide) _, Field.isSound_string (by decide) _,
    Field.isSound_string (by decide) _, Field.isSound_strings (by decide) _,
    Field.isSound_strings (by decide) _⟩

theorem isSound_platformFields : ∀ field ∈ platformFields platform, field.IsSound := by
  simp only [platformFields, List.forall_mem_cons, List.not_mem_nil, false_implies, implies_true,
    and_true]
  exact ⟨Field.isSound_string (by decide) _, Field.isSound_strings (by decide) _⟩

/-- The statements of the overrides: their platforms alone, or all of them under their header. -/
theorem states_metaText (overrides : MetaOverrides) :
    (Field.entries (overridesFields overrides) = [] ∧ platformTables overrides ≠ [] ∧
      States (metaText overrides)
        (itemsOf "meta".toList "platforms".toList (platformTables overrides))) ∨
    States (metaText overrides) (.header ⟨[], "meta".toList, false⟩ ::
      (pairsOf (Field.entries (overridesFields overrides)) ++
        itemsOf "meta".toList "platforms".toList (platformTables overrides))) := by
  have platforms : States ((overrides.platforms.getD []).flatMap platformText)
      (itemsOf "meta".toList "platforms".toList (platformTables overrides)) := by
    rw [itemsOf, platformTables, List.flatMap_map]
    refine States.flatMap fun platform _ => ?_
    rw [platformText_eq]
    exact (states_line (by decide) fun rest => ⟨'[', _, rfl, rfl⟩).append
      (Field.states_lines isSound_platformFields)
  have body : States (overridesText overrides)
      (pairsOf (Field.entries (overridesFields overrides))) := by
    rw [overridesText_eq]
    exact Field.states_lines isSound_overridesFields
  rw [metaText]
  split_ifs with alone
  · simp only [Bool.and_eq_true, Bool.not_eq_true', List.isEmpty_iff,
      List.isEmpty_eq_false_iff] at alone
    obtain ⟨noBody, present⟩ := alone
    -- An empty text states nothing, so no field but the platforms is set.
    have nothing := body.length_le
    rw [noBody] at nothing
    exact .inl ⟨List.map_eq_nil_iff.mp (List.length_eq_zero_iff.mp (Nat.le_zero.mp nothing)),
      fun none => present (List.map_eq_nil_iff.mp none), platforms⟩
  · right
    have header : States "\n[meta]\n".toList [.header ⟨[], "meta".toList, false⟩] :=
      states_line (by decide) fun rest => ⟨'[', _, rfl, rfl⟩
    have all := (header.append body).append platforms
    rwa [List.append_assoc] at all

/-! ## The table that is read -/

/-- The table of a configuration; only that of the overrides may come about without a header. -/
def entries (config : Config) (origin : Toml.TableOrigin) : Entries :=
  Field.entries (fields config) ++
    [("meta".toList, .table origin (overridesEntries config.overrides))]

theorem noMark_text (config : Config) : config.text.head? ≠ some byteOrderMark := by
  cases root : config.root <;>
    simp [text, root, pairLine?, pairLine, byteOrderMark]

theorem distinct_keys (config : Config) : ((fields config).map Field.key).Nodup := by
  simp [fields, Field.string, Field.strings, Field.always]

theorem distinct_overridesKeys (overrides : MetaOverrides) :
    ((overridesFields overrides).map Field.key).Nodup := by
  simp [overridesFields, Field.string, Field.strings]

theorem distinct_platformKeys (platform : Platform) :
    ((platformFields platform).map Field.key).Nodup := by
  simp [platformFields, Field.string, Field.strings]

theorem distinct_platformTables (overrides : MetaOverrides) :
    ∀ entries ∈ platformTables overrides, entries.Distinct := by
  intro entries member
  obtain ⟨platform, -, rfl⟩ := List.mem_map.mp member
  exact Field.distinct_entries (distinct_platformKeys platform)

theorem fields_ne_meta (config : Config) : ∀ field ∈ fields config, field.key ≠ "meta" := by
  simp [fields, Field.string, Field.strings, Field.always]

theorem entries_ne_meta (config : Config) :
    ∀ entry ∈ Field.entries (fields config), entry.1 ≠ "meta".toList :=
  Field.entries_absent fun field member same => absurd same (fields_ne_meta config field member)

/-- The key of the platforms is written only if there are none. -/
theorem overridesFields_ne_platforms (present : platformTables overrides ≠ []) :
    ∀ entry ∈ Field.entries (overridesFields overrides), entry.1 ≠ "platforms".toList := by
  have notEmpty : overrides.platforms ≠ some [] := by
    intro empty
    exact present (by rw [platformTables, empty]; rfl)
  exact Field.entries_absent (by simp [overridesFields, Field.string, Field.strings, notEmpty])

theorem read_text (jobs : config.jobs < 2 ^ 128) :
    ∃ origin, read config.text = .ok (entries config origin) := by
  have front := Field.states_lines (isSound_fields jobs)
  have table : Entries.addPairs .header [] ((Field.entries (fields config)).map Entries.plainPair) =
      .ok (Field.entries (fields config)) :=
    Entries.addPairs_plain (Field.distinct_entries (distinct_keys config))
  obtain ⟨nothing, present, platforms⟩ | states := states_metaText config.overrides
  · have states := front.append platforms
    rw [← text_eq] at states
    rw [read_of_states states (noMark_text config), sections_pairsOf, sections_itemsOf,
      List.append_nil, table]
    -- The header of the first platform makes the table of the overrides.
    refine ⟨.implied, ?_⟩
    rw [entries, overridesEntries, nothing]
    exact Entries.addItems_implied present (entries_ne_meta config) (distinct_platformTables _)
  · have states := front.append states
    rw [← text_eq] at states
    rw [read_of_states states (noMark_text config), sections_pairsOf, sections, sections_pairsOf,
      sections_itemsOf, List.append_nil, List.append_nil, table]
    refine ⟨.header, ?_⟩
    change (do
      let root ← Entries.addSection _ ⟨[], "meta".toList, false⟩ _
      (Entries.itemSections _ _ (platformTables config.overrides)).foldlM _ root) = _
    rw [Entries.addSection_header (entries_ne_meta config)
      (Field.distinct_entries (distinct_overridesKeys _)), entries, overridesEntries]
    exact Entries.addItems_header (entries_ne_meta config) overridesFields_ne_platforms
      (distinct_platformTables _)

/-! ## The record that is read -/

section Fields

variable {entries : Entries} {name : String} {position : Nat}

theorem read_some {α : Type} {default result : α} {value : Value → Option α} {found : Value}
    (lookup : entries.lookup name.toList = some found) (reads : value found = some result) :
    (Fields.named entries).read name position default value = some result := by
  rw [Fields.read, Fields.get?, lookup]
  exact reads

/-- A field that may be missing is read as it was set, its default being that it is not. -/
theorem read_optional {α : Type} {set : Option α} {write : α → Value}
    {value : Value → Option (Option α)}
    (lookup : entries.lookup name.toList = set.map write)
    (reads : ∀ content, value (write content) = some (some content)) :
    (Fields.named entries).read name position none value = some set := by
  rw [Fields.read, Fields.get?, lookup]
  cases set with
  | none => rfl
  | some content => exact reads content

end Fields

theorem mapM_map_some {α β : Type} {write : α → β} {read : β → Option α}
    (reads : ∀ item, read (write item) = some item) (all : List α) :
    (all.map write).mapM read = some all := by
  have same : read ∘ write = fun item => pure (id item) := funext reads
  rw [List.mapM_map, same, List.mapM_pure, List.map_id]
  rfl

theorem items?_strings (texts : List Text) :
    (Value.array false (texts.map .string)).items? (·.text?) = some texts := by
  have reads : ∀ text : Text, (Value.string text).text? = some text := fun _ => rfl
  exact mapM_map_some reads texts

theorem ofValue?_platform (platform : Platform) :
    Platform.ofValue? (.table .header (Field.entries (platformFields platform))) =
      some platform := by
  have lookup := Field.lookup_entries (distinct_platformKeys platform)
  have name : (Field.entries (platformFields platform)).lookup "name".toList =
      some (.string platform.name) :=
    lookup (.string "name" (some platform.name)) (by simp [platformFields])
  have versions : (Fields.named (Field.entries (platformFields platform))).read "versions" 1 []
      (·.items? (·.text?)) = some platform.versions :=
    read_some (lookup (.strings "versions" (some platform.versions)) (by simp [platformFields]))
      (items?_strings platform.versions)
  simp only [Platform.ofValue?, Fields.ofValue?, Fields.get?, name, versions, Option.bind_eq_bind,
    Option.bind_some]
  rfl

/-! ## The overrides that are read -/

theorem lookup_overrides (overrides : MetaOverrides) (field : Field)
    (member : field ∈ overridesFields overrides) (apart : field.key ≠ "platforms") :
    (overridesEntries overrides).lookup field.key.toList = field.content.map Prod.snd :=
  (Entries.lookup_withItems (fun same => apart (String.toList_injective same)) _ _).trans
    (Field.lookup_entries (distinct_overridesKeys overrides) field member)

/-- Platforms are found as a sequence of tables, or as a sequence of nothing. -/
theorem lookup_platforms (overrides : MetaOverrides) :
    ∃ ofTables, (overridesEntries overrides).lookup "platforms".toList =
      overrides.platforms.map fun platforms => .array ofTables (platforms.map fun platform =>
        .table .header (Field.entries (platformFields platform))) := by
  by_cases nothing : overrides.platforms.getD [] = []
  · have alone : overridesEntries overrides = Field.entries (overridesFields overrides) := by
      rw [overridesEntries, platformTables, nothing]
      exact Entries.withItems_nil ..
    have written : (Field.entries (overridesFields overrides)).lookup "platforms".toList =
        (if overrides.platforms = some [] then some [] else none).map
          fun texts => .array false (texts.map .string) :=
      (Field.lookup_entries (distinct_overridesKeys overrides) (.strings "platforms" _)
        (by simp only [overridesFields, List.mem_cons, true_or, or_true])).trans
        (Field.values_strings ..)
    rw [alone, written]
    match platforms : overrides.platforms, nothing with
    | none, _ => exact ⟨true, rfl⟩
    | some [], _ => exact ⟨false, rfl⟩
  · have present : platformTables overrides ≠ [] := by simpa [platformTables] using nothing
    have found : (overridesEntries overrides).lookup "platforms".toList =
        some (.array true ((platformTables overrides).map (.table .header))) :=
      Entries.lookup_withItems_self (overridesFields_ne_platforms present)
        (List.map_eq_nil_iff.not.mpr present)
    refine ⟨true, found.trans ?_⟩
    obtain ⟨platforms, set⟩ : ∃ platforms, overrides.platforms = some platforms := by
      cases set : overrides.platforms with
      | none => exact absurd (by rw [set]; rfl) nothing
      | some platforms => exact ⟨platforms, rfl⟩
    simp [platformTables, set]

theorem read_overridesText (overrides : MetaOverrides) (key : String) (value : Option Text)
    (position : Nat) (member : Field.string key value ∈ overridesFields overrides)
    (apart : key ≠ "platforms") :
    (Fields.named (overridesEntries overrides)).read key position none
      (fun value => value.text?.map some) = some value :=
  read_optional ((lookup_overrides overrides _ member apart).trans (Field.values_string key value))
    fun _ => rfl

theorem ofValue?_overrides (overrides : MetaOverrides) (origin : Toml.TableOrigin) :
    MetaOverrides.ofValue? (.table origin (overridesEntries overrides)) = some overrides := by
  obtain ⟨ofTables, found⟩ := lookup_platforms overrides
  have platforms : (Fields.named (overridesEntries overrides)).read "platforms" 5 none
      (fun value => (value.items? Platform.ofValue?).map some) = some overrides.platforms :=
    read_optional found fun platforms =>
      congrArg (Option.map some) (mapM_map_some ofValue?_platform platforms)
  have tags := lookup_overrides overrides (.strings "galaxy_tags" overrides.galaxyTags)
    (by simp [overridesFields]) (by decide : "galaxy_tags" ≠ "platforms")
  have galaxyTags : (Fields.named (overridesEntries overrides)).read "galaxy_tags" 6 none
      (fun value => (value.items? (·.text?)).map some) = some overrides.galaxyTags :=
    read_optional (tags.trans (Field.values_strings ..)) fun texts =>
      congrArg (Option.map some) (items?_strings texts)
  have text := read_overridesText overrides
  have author := text "author" overrides.author 0 (by simp [overridesFields]) (by decide)
  have description := text "description" overrides.description 1 (by simp [overridesFields])
    (by decide)
  have company := text "company" overrides.company 2 (by simp [overridesFields]) (by decide)
  have license := text "license" overrides.license 3 (by simp [overridesFields]) (by decide)
  have minAnsibleVersion := text "min_ansible_version" overrides.minAnsibleVersion 4
    (by simp [overridesFields]) (by decide)
  simp only [MetaOverrides.ofValue?, Fields.ofValue?, author, description, company, license,
    minAnsibleVersion, platforms, galaxyTags, Option.bind_eq_bind, Option.bind_some]
  rfl

/-! ## The configuration that is read -/

/-- The overrides hide no other field. -/
theorem lookup_fields (config : Config) (origin : Toml.TableOrigin) (field : Field)
    (member : field ∈ fields config) :
    (entries config origin).lookup field.key.toList = field.content.map Prod.snd := by
  have apart : field.key.toList ≠ "meta".toList := fun same =>
    fields_ne_meta config field member (String.toList_injective same)
  rw [entries, List.lookup_append, List.lookup_cons, beq_false_of_ne apart,
    Field.lookup_entries (distinct_keys config) field member]
  exact Option.or_none

theorem ofName?_name (policy : WritePolicy) :
    WritePolicy.ofName? policy.name.toList = some policy := by
  cases policy <;> decide

theorem count?_integer (jobs : config.jobs ≤ Value.greatestCount) :
    (Value.integer config.jobs).count? = some config.jobs := by
  rw [Value.count?, if_pos]
  · rfl
  · simp only [Bool.and_eq_true, decide_eq_true_eq]
    exact ⟨Int.natCast_nonneg _, Int.ofNat_le.mpr jobs⟩

theorem ofEntries?_entries (origin : Toml.TableOrigin) (jobs : config.jobs ≤ Value.greatestCount) :
    ofEntries? (entries config origin) = some config := by
  have lookup := lookup_fields config origin
  have rooted := lookup (.string "root" config.root) (by simp [fields])
  have root : (Fields.named (entries config origin)).read "root" 0 none
      (fun value => value.text?.map some) = some config.root :=
    read_optional (rooted.trans (Field.values_string ..)) fun _ => rfl
  have policy : (Fields.named (entries config origin)).read "write" 1 .repaired
      (fun value => value.name?.bind WritePolicy.ofName?) = some config.policy :=
    read_some (lookup (.string "write" (some config.policy.name.toList)) (by simp [fields]))
      (ofName?_name config.policy)
  have backup : (Fields.named (entries config origin)).read "backup" 2 true (·.boolean?) =
      some config.backup :=
    read_some (lookup (.always "backup" (booleanText config.backup) (.boolean config.backup))
      (by simp [fields])) rfl
  have suffix : (Fields.named (entries config origin)).read "backup_suffix" 3 ".backup".toList
      (·.text?) = some config.suffix :=
    read_some (lookup (.string "backup_suffix" (some config.suffix)) (by simp [fields])) rfl
  have exclude : (Fields.named (entries config origin)).read "exclude" 4 []
      (·.items? (·.text?)) = some config.exclude :=
    read_some (lookup (.strings "exclude" (some config.exclude)) (by simp [fields]))
      (items?_strings config.exclude)
  have jobs : (Fields.named (entries config origin)).read "jobs" 5 0 (·.count?) =
      some config.jobs :=
    read_some (lookup (.always "jobs" (Text.ofNat config.jobs) (.integer config.jobs))
      (by simp [fields])) (count?_integer jobs)
  have overrides : (Fields.named (entries config origin)).read "meta" 6 {}
      MetaOverrides.ofValue? = some config.overrides :=
    read_some (Entries.lookup_last (entries_ne_meta config) _)
      (ofValue?_overrides config.overrides origin)
  simp only [ofEntries?, root, policy, backup, suffix, exclude, jobs, overrides,
    Option.bind_eq_bind, Option.bind_some]
  rfl

/-- The text of a configuration describes that configuration. -/
theorem parse_text (path : Path) (jobs : config.jobs ≤ Value.greatestCount) :
    parse path config.text = .ok config := by
  obtain ⟨origin, reads⟩ := read_text (jobs.trans_lt (by decide))
  simp only [parse, reads, ofEntries?_entries origin jobs]

end PlaybookRepair.Config
