import PlaybookRepair.Role

/-!
# What roles say about lines

A role is given to a line by the first rule that claims it, so a line that has a role fulfils the
condition of a rule for that role (`Role.ofFacts_fits`). In particular a line without content is
blank, whatever surrounds it, and no other line is.
-/

namespace PlaybookRepair

open Catalog (ShellFamily)

/-- What a line shows on its own if it has the role. -/
def Role.Fits (facts : LineFacts) : Role → Prop
  | .blank => facts.content = []
  | .comment => facts.content.head? = some '#'
  | .documentMarker => facts.content = "---".toList ∨ "--- ".toList.isPrefixOf facts.content
  | .playHeader | .taskHeader _ | .taskAttribute | .playAttribute | .keyValue => facts.key.isSome
  | .moduleInvocation => facts.key.any Catalog.isModule
  | .shellFragment family => ShellFamily.ofContent? facts.content = some family
  | .listItem => facts.dashed
  | .continuation => True

namespace Rule

variable {facts : LineFacts} (around : Surroundings) {role : Role}

theorem claimIf_eq_some {condition : Bool} {claimed : Role}
    (claims : claimIf condition claimed = some role) : condition = true ∧ role = claimed := by
  unfold claimIf at claims
  split at claims
  · next holds => exact ⟨holds, (Option.some.inj claims).symm⟩
  · cases claims

theorem isSome_of_hasKey {key : String} (has : facts.hasKey key) : facts.key.isSome := by
  rw [of_decide_eq_true has]
  rfl

theorem documentMarker_fits (claims : documentMarker facts around = some role) :
    role.Fits facts := by
  obtain ⟨condition, rfl⟩ := claimIf_eq_some claims
  simpa [Role.Fits] using condition

theorem blank_fits (claims : blank facts around = some role) : role.Fits facts := by
  obtain ⟨condition, rfl⟩ := claimIf_eq_some claims
  exact List.isEmpty_iff.mp condition

theorem comment_fits (claims : comment facts around = some role) : role.Fits facts := by
  obtain ⟨condition, rfl⟩ := claimIf_eq_some claims
  simpa [Role.Fits] using condition

theorem playHeader_fits (claims : playHeader facts around = some role) : role.Fits facts := by
  unfold playHeader at claims
  split at claims
  · next has =>
      obtain ⟨_, rfl⟩ := claimIf_eq_some claims
      exact isSome_of_hasKey has
  · split at claims
    · next has =>
        obtain ⟨_, rfl⟩ := claimIf_eq_some claims
        exact isSome_of_hasKey (Bool.and_eq_true_iff.mp has).1
    · cases claims

theorem taskHeader_fits (claims : taskHeader facts around = some role) : role.Fits facts := by
  unfold taskHeader at claims
  split at claims
  · cases claims
  · next has =>
      have isSome : facts.key.isSome := isSome_of_hasKey (by simpa using has)
      split at claims
      · cases claims
        exact isSome
      · obtain ⟨_, rfl⟩ := claimIf_eq_some claims
        exact isSome

theorem keyword_fits (claims : keyword facts around = some role) : role.Fits facts := by
  unfold keyword at claims
  split at claims
  · cases claims
  · cases key : facts.key with
    | none => simp only [key, Option.bind_none, reduceCtorEq] at claims
    | some key =>
        have isSome : facts.key.isSome := by simp only [key, Option.isSome_some]
        split at claims
        · cases claims
          exact isSome
        · cases claims
          exact isSome
        · cases claims
          split <;> exact isSome
        · cases claims

theorem moduleInvocation_fits (claims : moduleInvocation facts around = some role) :
    role.Fits facts := by
  obtain ⟨condition, rfl⟩ := claimIf_eq_some claims
  exact (Bool.and_eq_true_iff.mp condition).2

theorem shellFragment_fits (claims : shellFragment facts around = some role) :
    role.Fits facts := by
  obtain ⟨family, found, rfl⟩ := Option.map_eq_some_iff.mp claims
  exact found

theorem keyValue_fits (claims : keyValue facts around = some role) : role.Fits facts := by
  obtain ⟨condition, rfl⟩ := claimIf_eq_some claims
  exact (Bool.and_eq_true_iff.mp condition).2

theorem listItem_fits (claims : listItem facts around = some role) : role.Fits facts := by
  obtain ⟨condition, rfl⟩ := claimIf_eq_some claims
  exact condition

/-- Every rule claims for a role only lines that fit it. -/
theorem fits_of_mem_all {rule : Rule} (member : rule ∈ all)
    (claims : rule.claim facts around = some role) : role.Fits facts := by
  simp only [all, List.mem_cons, List.not_mem_nil, or_false] at member
  rcases member with rfl | rfl | rfl | rfl | rfl | rfl | rfl | rfl | rfl | rfl
  · exact documentMarker_fits around claims
  · exact blank_fits around claims
  · exact comment_fits around claims
  · exact playHeader_fits around claims
  · exact taskHeader_fits around claims
  · exact keyword_fits around claims
  · exact moduleInvocation_fits around claims
  · exact shellFragment_fits around claims
  · exact keyValue_fits around claims
  · exact listItem_fits around claims

end Rule

/-- **Roles fit their lines.** -/
theorem Role.ofFacts_fits (facts : LineFacts) (around : Surroundings) :
    (Role.ofFacts facts around).Fits facts := by
  unfold Role.ofFacts
  cases found : Rule.all.findSome? fun rule => rule.claim facts around with
  | none => trivial
  | some role =>
      obtain ⟨rule, member, claims⟩ := List.exists_of_findSome?_eq_some found
      exact Rule.fits_of_mem_all around member claims

/-- A line is blank exactly if it has no content. -/
theorem Role.ofFacts_eq_blank_iff (facts : LineFacts) (around : Surroundings) :
    Role.ofFacts facts around = .blank ↔ facts.content = [] := by
  constructor
  · intro isBlank
    have fits := Role.ofFacts_fits facts around
    rwa [isBlank] at fits
  · intro empty
    have marker : Rule.documentMarker facts around = none := by
      simp [Rule.documentMarker, Rule.claimIf, empty]
    have blank : Rule.blank facts around = some .blank := by
      simp [Rule.blank, Rule.claimIf, empty]
    simp only [Role.ofFacts, Rule.all, List.findSome?_cons, marker, blank, Option.getD_some]

/-- A line is a comment exactly if its content starts with a number sign. -/
theorem Role.ofFacts_eq_comment_iff (facts : LineFacts) (around : Surroundings) :
    Role.ofFacts facts around = .comment ↔ facts.content.head? = some '#' := by
  constructor
  · intro isComment
    have fits := Role.ofFacts_fits facts around
    rwa [isComment] at fits
  · intro sign
    obtain ⟨rest, content⟩ := List.head?_eq_some_iff.mp sign
    have marker : Rule.documentMarker facts around = none := by
      simp [Rule.documentMarker, Rule.claimIf, content]
    have blank : Rule.blank facts around = none := by
      simp [Rule.blank, Rule.claimIf, content]
    have comment : Rule.comment facts around = some .comment := by
      simp [Rule.comment, Rule.claimIf, content]
    simp only [Role.ofFacts, Rule.all, List.findSome?_cons, marker, blank, comment,
      Option.getD_some]

/-- A line is a document marker exactly if its content is one. -/
theorem Role.ofFacts_eq_documentMarker_iff (facts : LineFacts) (around : Surroundings) :
    Role.ofFacts facts around = .documentMarker ↔
      facts.content = "---".toList ∨ "--- ".toList.isPrefixOf facts.content := by
  constructor
  · intro isMarker
    have fits := Role.ofFacts_fits facts around
    rwa [isMarker] at fits
  · intro content
    have marker : Rule.documentMarker facts around = some .documentMarker := by
      rw [Rule.documentMarker, Rule.claimIf, if_pos (by simpa using content)]
    simp only [Role.ofFacts, Rule.all, List.findSome?_cons, marker, Option.getD_some]

/-- The line has been classified in some surroundings. -/
def LineToken.Classified (token : LineToken) : Prop :=
  ∃ line around, token = .classify line around

namespace LineToken.Classified

variable {token : LineToken} (classified : token.Classified)
include classified

theorem facts_eq : token.toLineFacts = .ofLine token.line := by
  obtain ⟨line, around, rfl⟩ := classified
  rfl

theorem fits : token.role.Fits token.toLineFacts := by
  obtain ⟨line, around, rfl⟩ := classified
  exact Role.ofFacts_fits _ around

theorem role_eq_blank_iff : token.role = .blank ↔ token.content = [] := by
  obtain ⟨line, around, rfl⟩ := classified
  exact Role.ofFacts_eq_blank_iff _ around

theorem role_eq_comment_iff : token.role = .comment ↔ token.content.head? = some '#' := by
  obtain ⟨line, around, rfl⟩ := classified
  exact Role.ofFacts_eq_comment_iff _ around

theorem role_eq_documentMarker_iff : token.role = .documentMarker ↔
    token.content = "---".toList ∨ "--- ".toList.isPrefixOf token.content := by
  obtain ⟨line, around, rfl⟩ := classified
  exact Role.ofFacts_eq_documentMarker_iff _ around

end LineToken.Classified

end PlaybookRepair
