import PlaybookRepair.Proofs.Escalation

/-!
# Repairing the result of a repair

The kind of a file is found anew from the text of a repair. A mark in the path decides it once and
for all, and a list of tasks is acceptable exactly where a playbook is, so a text accepted for a kind
that is known stays accepted. Only a text of unknown kind, of which nothing but its being readable
was asked, can turn into one that looks like a playbook or a list of tasks and has a document of
another shape. The main statement, `repair_again_unchanged_iff`, says that this is the one case in
which a second repair does not leave the text alone, and `repair_again_fails` shows such a text.
-/

namespace PlaybookRepair

namespace FileKind

/-- A kind that asks no more of the shape of a document asks no more of the documents. -/
theorem checkDocuments_isOk_of_checkShape {kind other : FileKind}
    (weaker : ∀ value, kind.checkShape value = .ok () → other.checkShape value = .ok ())
    {documents : List Yaml.Document} {number : Nat}
    (checked : kind.checkDocuments number documents = .ok ()) :
    other.checkDocuments number documents = .ok () := by
  induction documents generalizing number with
  | nil => rfl
  | cons document rest ih =>
      simp only [checkDocuments] at checked ⊢
      cases read : document.value with
      | error error => simp only [read, reduceCtorEq] at checked
      | ok value =>
          simp only [read] at checked ⊢
          cases shape : kind.checkShape value with
          | error error => simp only [shape, reduceCtorEq] at checked
          | ok _ =>
              simp only [shape] at checked
              rw [weaker value shape]
              exact ih checked

/-- A kind that asks no more of the shape of a document accepts no fewer texts. -/
theorem accepts_of_checkShape {kind other : FileKind}
    (weaker : ∀ value, kind.checkShape value = .ok () → other.checkShape value = .ok ())
    {text : Text} (accepted : kind.accepts text) : other.accepts text :=
  (other.accepts_iff text).mpr
    (checkDocuments_isOk_of_checkShape weaker ((kind.accepts_iff text).mp accepted))

/-- Whatever is accepted for some kind is accepted for the unknown kind. -/
theorem accepts_unknown {kind : FileKind} {text : Text} (accepted : kind.accepts text) :
    unknown.accepts text :=
  accepts_of_checkShape (fun _ _ => rfl) accepted

/-- A value has the shape of a list of tasks exactly if it has that of a playbook. -/
theorem checkShape_taskList_iff (value : Yaml.Value) :
    taskList.checkShape value = .ok () ↔ playbook.checkShape value = .ok () := by
  cases value <;> simp [checkShape]

/-- Whether the kind is found in the content of a file rather than in its path. -/
def isOfContent : FileKind → Bool
  | playbook | taskList | unknown => true
  | roleMeta | vars => false

/-- A text is acceptable for a known kind of content exactly if it is for a playbook. -/
theorem accepts_iff_playbook {kind : FileKind} (ofContent : kind.isOfContent)
    (known : kind ≠ .unknown) (text : Text) : kind.accepts text ↔ playbook.accepts text := by
  cases kind with
  | playbook => exact Iff.rfl
  | taskList =>
      exact ⟨accepts_of_checkShape fun value => (checkShape_taskList_iff value).mp,
        accepts_of_checkShape fun value => (checkShape_taskList_iff value).mpr⟩
  | unknown => exact (known rfl).elim
  | roleMeta => exact absurd ofContent (by decide)
  | vars => exact absurd ofContent (by decide)

/-- The path alone decides whether a kind is found in the content, and which one otherwise. -/
theorem detect_of_path (path first second : Text) :
    detect path first = detect path second ∨
      ((detect path first).isOfContent ∧ (detect path second).isOfContent) := by
  by_cases isMeta : Text.holds "meta/main".toList (normalizePath path)
  · simp only [detect, isMeta, ↓reduceIte, true_or]
  · by_cases isVars : varsMarks.any fun mark => Text.holds mark (normalizePath path)
    · simp only [detect, isMeta, isVars, ↓reduceIte, true_or]
    · right
      simp only [detect, isMeta, isVars, Bool.false_eq_true, ↓reduceIte]
      constructor <;> (repeat' split) <;> rfl

/-- A text accepted for a kind is accepted for the kind found in it under the same path, unless the
first kind is unknown, the second is not, and the text has not the shape of a playbook. -/
theorem accepts_detect_iff {path source text : Text}
    (accepted : (detect path source).accepts text) :
    (detect path text).accepts text ↔
      (detect path source = .unknown → detect path text ≠ .unknown → playbook.accepts text) := by
  rcases detect_of_path path source text with same | ⟨before, after⟩
  · rw [← same]
    exact ⟨fun _ isUnknown known => (known isUnknown).elim, fun _ => accepted⟩
  · by_cases unknownAfter : detect path text = .unknown
    · rw [unknownAfter]
      exact ⟨fun _ _ known => (known rfl).elim, fun _ => accepts_unknown accepted⟩
    · rw [accepts_iff_playbook after unknownAfter]
      by_cases unknownBefore : detect path source = .unknown
      · exact ⟨fun listed _ _ => listed, fun listed => listed unknownBefore unknownAfter⟩
      · have listed := (accepts_iff_playbook before unknownBefore text).mp accepted
        exact ⟨fun _ _ _ => listed, fun _ => listed⟩

end FileKind

/-- What a repair can be, as far as the next one has to do with it. -/
theorem repair_cases (defaults : MetaDefaults) (path text : Text) :
    let kind := FileKind.detect path text
    let result := repair defaults path text
    (kind.accepts text ∧ result = .unchanged kind text) ∨
      (¬ kind.accepts text ∧ ∃ strategy rebuilt, kind.accepts rebuilt.text ∧
        result = .accepted kind strategy rebuilt) ∨
      (¬ kind.accepts text ∧ ∃ strategy rebuilt diagnostic,
        result = .failed kind strategy rebuilt diagnostic) := by
  intro kind result
  rcases Repair.course_cases kind defaults text with ⟨accepted, outcome⟩ |
    ⟨refused, strategy, first, outcome⟩ | ⟨refused, _, attempt, _, _, _, outcome⟩
  · exact .inl ⟨accepted, outcome⟩
  · exact .inr (.inl ⟨refused, strategy, _, first.1, outcome⟩)
  · exact .inr (.inr ⟨refused, _, _, _, outcome⟩)

/-- The text of a repair that has not failed is accepted for the kind found for the source. -/
theorem accepts_repair_text {defaults : MetaDefaults} {path text : Text}
    (ok : (repair defaults path text).ok) :
    (FileKind.detect path text).accepts (repair defaults path text).text := by
  rcases repair_cases defaults path text with ⟨accepted, outcome⟩ |
    ⟨_, strategy, rebuilt, accepted, outcome⟩ | ⟨_, strategy, rebuilt, diagnostic, outcome⟩
  · rw [outcome]
    exact accepted
  · rw [outcome]
    exact accepted
  · rw [outcome] at ok
    exact absurd ok (by simp [RepairResult.ok, RepairResult.failed])

/-- A repair does not fail if one of the strategies of the kind has an accepted candidate. -/
theorem repair_status_ne_failed (defaults : MetaDefaults) {path text : Text} (strategy : Strategy)
    (planned : strategy ∈ (FileKind.detect path text).plan)
    (accepted : (FileKind.detect path text).accepts
      ((FileKind.detect path text).candidate defaults text strategy).text) :
    (repair defaults path text).status ≠ .failed := by
  obtain ⟨-, outcome⟩ | ⟨-, _, -, outcome⟩ | ⟨-, rejected, -⟩ :=
    Repair.course_cases (FileKind.detect path text) defaults text
  · change repair defaults path text = _ at outcome
    rw [outcome]
    rintro ⟨⟩
  · change repair defaults path text = _ at outcome
    rw [outcome]
    rintro ⟨⟩
  · exact absurd accepted (rejected strategy planned)

/-- The kind of a repair is the one found for the source. -/
theorem repair_kind (defaults : MetaDefaults) (path text : Text) :
    (repair defaults path text).kind = FileKind.detect path text := by
  rcases repair_cases defaults path text with ⟨_, outcome⟩ | ⟨_, _, _, _, outcome⟩ |
    ⟨_, _, _, _, outcome⟩ <;>
  · rw [outcome]
    rfl

/-- A repair finds a text valid exactly if the text is accepted for the kind found for it. -/
theorem repair_status_valid_iff (defaults : MetaDefaults) (path text : Text) :
    (repair defaults path text).status = .valid ↔ (FileKind.detect path text).accepts text := by
  rcases repair_cases defaults path text with ⟨accepted, outcome⟩ |
    ⟨refused, _, _, _, outcome⟩ | ⟨refused, _, _, _, outcome⟩
  · rw [outcome]
    exact ⟨fun _ => accepted, fun _ => rfl⟩
  · rw [outcome]
    exact ⟨(nomatch ·), fun accepted => (refused accepted).elim⟩
  · rw [outcome]
    exact ⟨(nomatch ·), fun accepted => (refused accepted).elim⟩

/-- **Repairing twice.** The result of a repair that has not failed is left alone by a second repair
under the same path, unless the source was of unknown kind, its result is of a known one, and some
document of the result is not a list of mappings. -/
theorem repair_again_unchanged_iff (defaults : MetaDefaults) (path text : Text)
    (ok : (repair defaults path text).ok) :
    let once := repair defaults path text
    let twice := repair defaults path once.text
    (twice.status = .valid ∧ twice.strategy = .untouched ∧ twice.text = once.text) ↔
      (once.kind = .unknown → FileKind.detect path once.text ≠ .unknown →
        FileKind.playbook.accepts once.text) := by
  intro once twice
  rw [repair_kind, ← FileKind.accepts_detect_iff (accepts_repair_text ok)]
  constructor
  · rintro ⟨valid, _, _⟩
    exact (repair_status_valid_iff defaults path once.text).mp valid
  · intro accepted
    have outcome : twice = _ := Repair.course_of_accepted accepted
    rw [outcome]
    exact ⟨rfl, rfl, rfl⟩

/-- A list of tasks whose script has fallen apart is repaired once and for all. -/
theorem repair_again_unchanged_script :
    let path := "roles/web/tasks/main.yml".toList
    let text := "  - name: test\n    shell: echo hi\n    dnf install foo\n".toList
    (repair {} path text).ok ∧ (repair {} path text).status = .fixed ∧
      (repair {} path (repair {} path text).text).status = .valid := by
  have ok : (repair {} "roles/web/tasks/main.yml".toList
      "  - name: test\n    shell: echo hi\n    dnf install foo\n".toList).ok := by decide +kernel
  refine ⟨ok, by decide +kernel, ?_⟩
  exact ((repair_again_unchanged_iff {} _ _ ok).mpr (by decide +kernel)).1

/-- A mapping of unknown kind whose `hosts` key is moved near the left margin looks like a playbook
afterwards. Its repair is accepted, and the repair of the result fails. -/
theorem repair_again_fails :
    let path := "inventory.yml".toList
    let once := repair {} path "    all:\n      hosts: web\n  env: prod\n".toList
    let twice := repair {} path once.text
    once.ok ∧ once.text = "---\nall:\n  hosts: web\nenv: prod\n".toList ∧
      twice.status = .failed ∧ twice.text ≠ once.text := by
  decide +kernel

end PlaybookRepair
