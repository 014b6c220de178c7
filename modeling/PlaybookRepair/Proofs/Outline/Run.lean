import PlaybookRepair.Proofs.Outline.Step
import PlaybookRepair.Proofs.Rebuild.Content
import PlaybookRepair.Proofs.Rebuild.Rejoining

/-!
# The outline of a run

A line is classified with the play and the task that are open before it, so in a playbook the header
of a task comes in a play (`Role.position_of_taskHeader`), and without a key `hosts` a list of tasks
has no header of a play. The trackers of a full rebuild of a playbook, and those of any rebuild of
such a list of tasks, are therefore laid out all along (`Rebuild.outlined_run`), and so is the
finished document (`Rebuild.exists_outline`).
-/

namespace PlaybookRepair

open Outline

/-! ## Roles and open sections -/

namespace Rule

variable {facts : LineFacts} {around : Surroundings} {role : Role}

/-- A role that is not left to lines without one is claimed by a rule. -/
theorem exists_claim (isRole : Role.ofFacts facts around = role) (notLeft : role ≠ .continuation) :
    ∃ rule ∈ all, rule.claim facts around = some role := by
  unfold Role.ofFacts at isRole
  cases found : all.findSome? fun rule => rule.claim facts around with
  | none =>
      rw [found] at isRole
      exact (notLeft isRole.symm).elim
  | some other =>
      rw [found] at isRole
      obtain rfl : other = role := isRole
      exact List.exists_of_findSome?_eq_some found

theorem playHeader_eq_some (claims : playHeader facts around = some role) :
    role = .playHeader ∧ (facts.hasKey "hosts" ∨ around.kind = .playbook) := by
  unfold playHeader at claims
  split at claims
  · next hasHosts => exact ⟨(claimIf_eq_some claims).2, .inl hasHosts⟩
  · split at claims
    · next inPlaybook =>
        exact ⟨(claimIf_eq_some claims).2,
          .inr (of_decide_eq_true (Bool.and_eq_true_iff.mp inPlaybook).2)⟩
    · cases claims

theorem taskHeader_eq_some (claims : taskHeader facts around = some role) :
    (∃ dashed, role = .taskHeader dashed) ∧ facts.hasKey "name" := by
  unfold taskHeader at claims
  split at claims
  · cases claims
  · next hasName =>
      have named : facts.hasKey "name" := by simpa using hasName
      split at claims
      · exact ⟨⟨true, (Option.some.inj claims).symm⟩, named⟩
      · exact ⟨⟨false, (claimIf_eq_some claims).2⟩, named⟩

theorem keyword_eq_some (claims : keyword facts around = some role) :
    role = .taskAttribute ∨ role = .playAttribute := by
  unfold keyword at claims
  split at claims
  · cases claims
  · split at claims <;> cases claims
    · exact .inl rfl
    · exact .inr rfl
    · split
      · exact .inl rfl
      · exact .inr rfl

/-- Only the rules for headers claim lines for headers. -/
theorem claims_of_isHeader (isRole : Role.ofFacts facts around = role) (isHeader : role.isHeader) :
    playHeader facts around = some role ∨ taskHeader facts around = some role := by
  obtain ⟨rule, member, claims⟩ := exists_claim isRole (by rintro rfl; cases isHeader)
  simp only [all, List.mem_cons, List.not_mem_nil, or_false] at member
  rcases member with rfl | rfl | rfl | rfl | rfl | rfl | rfl | rfl | rfl | rfl
  · cases (claimIf_eq_some claims).2 ▸ isHeader
  · cases (claimIf_eq_some claims).2 ▸ isHeader
  · cases (claimIf_eq_some claims).2 ▸ isHeader
  · exact .inl claims
  · exact .inr claims
  · rcases keyword_eq_some claims with rfl | rfl <;> cases isHeader
  · cases (claimIf_eq_some claims).2 ▸ isHeader
  · obtain ⟨_, _, rfl⟩ := Option.map_eq_some_iff.mp claims
    cases isHeader
  · cases (claimIf_eq_some claims).2 ▸ isHeader
  · cases (claimIf_eq_some claims).2 ▸ isHeader

/-- What the rule for headers of plays claims is no header of a task. -/
theorem ne_taskHeader_of_playHeader (claims : (playHeader facts around).isSome) (dashed : Bool) :
    Role.ofFacts facts around ≠ .taskHeader dashed := by
  obtain ⟨claimed, isClaimed⟩ := Option.isSome_iff_exists.mp claims
  obtain ⟨rfl, _⟩ := playHeader_eq_some isClaimed
  unfold Role.ofFacts all
  simp only [List.findSome?_cons, isClaimed]
  cases marker : documentMarker facts around with
  | some other =>
      obtain ⟨_, rfl⟩ := claimIf_eq_some marker
      nofun
  | none =>
      cases isBlank : blank facts around with
      | some other =>
          obtain ⟨_, rfl⟩ := claimIf_eq_some isBlank
          nofun
      | none =>
          cases isComment : comment facts around with
          | some other =>
              obtain ⟨_, rfl⟩ := claimIf_eq_some isComment
              nofun
          | none => nofun

end Rule

namespace Role

variable {facts : LineFacts} {around : Surroundings}

/-- The header of a play has hosts, or it is in a playbook. -/
theorem hosts_or_playbook_of_playHeader (isHeader : Role.ofFacts facts around = .playHeader) :
    facts.hasKey "hosts" ∨ around.kind = .playbook := by
  rcases Rule.claims_of_isHeader isHeader rfl with claims | claims
  · exact (Rule.playHeader_eq_some claims).2
  · obtain ⟨⟨_, same⟩, _⟩ := Rule.taskHeader_eq_some claims
    cases same

/-- In a playbook the header of a task comes in a play: a name where no play is open is the header
of one. -/
theorem playOpen_of_taskHeader {dashed : Bool}
    (isHeader : Role.ofFacts facts around = .taskHeader dashed)
    (inPlaybook : around.kind = .playbook) : around.playOpen := by
  by_contra noPlay
  have claims : (Rule.playHeader facts around).isSome := by
    rcases Rule.claims_of_isHeader isHeader rfl with claims | claims
    · rw [claims]
      rfl
    · have named := (Rule.taskHeader_eq_some claims).2
      simp [Rule.playHeader, Rule.claimIf, named, inPlaybook, Bool.eq_false_iff.mpr noPlay]
  exact Rule.ne_taskHeader_of_playHeader claims dashed isHeader

end Role

/-! ## The kind of the document -/

theorem Tracker.Effect.kind {before after : Tracker} {token : LineToken}
    (effect : Effect before token after) : after.kind = before.kind := by
  cases effect with
  | wrote _ _ _ _ adds => exact adds.kind
  | dropped _ _ adds => exact adds.kind
  | opened _ ready _ _ adds _ isOpen => exact isOpen ▸ adds.kind
  | rejoined ready _ _ adds _ _ isOpen => exact isOpen ▸ adds.kind

theorem Tracker.push_kind (tracker : Tracker) {token : LineToken} (classified : token.Classified) :
    (tracker.push token).kind = tracker.kind := by
  cases absorbs : tracker.extendShell? token with
  | some extended =>
      obtain ⟨_, _, _, _, rfl⟩ := extendShell?_eq_some absorbs
      rw [push_of_absorbed absorbs]
      rfl
  | none =>
      rw [push_of_outside absorbs, ← tracker.flushShell_play_kind.2]
      by_cases isBlank : token.role = .blank
      · rw [pushOutsideShell, if_pos isBlank]
        rcases tracker.flushShell.adds_pushBlank with adds | adds <;> exact adds.kind
      · exact (effect_pushOutsideShell _ classified
          (mt classified.role_eq_blank_iff.mpr isBlank)).kind

namespace Rebuild

/-- A line is classified in the surroundings that the lines before it have left. -/
theorem tokensFrom_split {state : State} {lines : List (Line × Bool)} {done later : List LineToken}
    {token : LineToken} (split : tokensFrom state lines = done ++ token :: later) :
    ∃ previousOpensBlock itemHasHosts, token = .classify token.line
      ((done.foldl Tracker.push state.tracker).surroundings previousOpensBlock itemHasHosts) := by
  induction lines generalizing state done with
  | nil => simp [tokensFrom] at split
  | cons line rest ih =>
      rw [tokensFrom] at split
      cases done with
      | nil =>
          obtain ⟨rfl, _⟩ := List.cons.inj split
          exact ⟨_, _, rfl⟩
      | cons first done =>
          obtain ⟨rfl, others⟩ := List.cons.inj split
          have found := ih others
          exact found

variable (mode : RebuildMode) (kind : FileKind) (text : Text)

theorem trackerAfter_kind : ∀ done later, tokens mode kind text = done ++ later →
    (trackerAfter mode kind done).kind = kind := by
  refine invariant mode kind text rfl fun done token later split ih => ?_
  have classified : token.Classified :=
    classified_of_mem (split ▸ List.mem_append_right _ List.mem_cons_self)
  rw [trackerAfter_concat, Tracker.push_kind _ classified, ih]

/-- A block that is open again is to be written in the place of its earlier lines. -/
theorem holdsBlock_run {done later : List LineToken}
    (split : tokens mode kind text = done ++ later) :
    (trackerAfter mode kind done).HoldsBlock := by
  intro placement reopened
  obtain ⟨earlier, token, absorbed, old, block, rfl, takenUp⟩ :=
    takenUp_run mode kind text done later split placement reopened
  have splitEarlier : tokens mode kind text = earlier ++ (token :: absorbed ++ later) := by
    rw [split, List.append_assoc]
  obtain ⟨before, first, rest, rfl, _, isMode, _, above, below, spans⟩ :=
    holds_of_remembered mode kind text splitEarlier (.inr rfl) takenUp.remembered
  rw [isMode, ← takenUp.out] at spans
  -- The lines before the task start with the marker of the document, if it has one.
  have splitBefore : tokens mode kind text =
      before ++ (first :: rest ++ (token :: absorbed ++ later)) := by
    rw [splitEarlier, List.append_assoc]
  obtain ⟨_, ⟨pieces, recorded, _⟩, _⟩ := ledger_run mode kind text before _ splitBefore
  obtain ⟨blanks, _, _, written⟩ := recorded.flushShell
  obtain ⟨closed, stillMode, _⟩ := (trackerAfter mode kind before).flushShell_state
  have isLeading := (written.of_closed closed).2.1
  rw [stillMode, trackerAfter_mode mode kind text before _ splitBefore, documentLines] at isLeading
  rw [isLeading, List.append_assoc] at spans
  rw [trackerAfter_mode mode kind text _ later split]
  exact ⟨old, _, below, spans⟩

/-- The documents whose outline a rebuild fixes: a playbook in the canonical mode, and a list of tasks
of which no line has hosts. -/
def IsRegular (mode : RebuildMode) (kind : FileKind) (text : Text) : Prop :=
  mode = .canonical ∧ kind = .playbook ∨
    kind = .taskList ∧ ∀ line ∈ Line.ofText text, ¬ (LineFacts.ofLine line).hasKey "hosts"

variable {mode kind text}

theorem outlined_start (regular : IsRegular mode kind text) (source : List LineToken) :
    Tracker.Outlined source [] (Tracker.start mode kind) := by
  refine Tracker.Laid.outlined ⟨Tracker.firstPart mode kind, ⟨[], ?_, .nil _, .slnil⟩, ?_, ?_⟩
    rfl nofun
  · cases mode <;> rfl
  · refine ⟨?_, ?_, nofun, nofun, nofun, nofun, nofun, nofun⟩
    · rcases regular with ⟨_, rfl⟩ | ⟨rfl, _⟩
      · exact .inl ⟨rfl, nofun⟩
      · exact .inr ⟨rfl, rfl, _, rfl⟩
    · intro incremental
      rcases regular with ⟨canonical, _⟩ | ⟨rfl, _⟩
      · cases canonical.symm.trans incremental
      · rw [show mode = .incremental from incremental]
        rfl
  · exact ⟨nofun, nofun⟩

/-- A line suits the state in which it has been classified. -/
theorem suits_of_split (regular : IsRegular mode kind text) {done later : List LineToken}
    {token : LineToken} (split : tokens mode kind text = done ++ token :: later) :
    (trackerAfter mode kind done).Suits token := by
  obtain ⟨previous, owns, same⟩ := tokensFrom_split split
  have isKind := trackerAfter_kind mode kind text done _ split
  have role : token.role = Role.ofFacts (.ofLine token.line)
      ((trackerAfter mode kind done).surroundings previous owns) := congrArg LineToken.role same
  have isLine : token.line ∈ Line.ofText text := by
    rw [← tokens_lines mode kind text, split]
    simp
  constructor
  · intro dashed isHeader
    rw [role] at isHeader
    rcases regular with ⟨_, rfl⟩ | ⟨rfl, _⟩
    · have inPlay := Role.playOpen_of_taskHeader isHeader isKind
      rw [Tracker.atTaskPosition, isKind]
      exact inPlay
    · rw [Tracker.atTaskPosition, isKind]
  · intro isHeader
    rw [role] at isHeader
    rcases regular with ⟨_, rfl⟩ | ⟨rfl, noHosts⟩
    · exact isKind
    · exact (Role.hosts_or_playbook_of_playHeader isHeader).resolve_left (noHosts _ isLine)

/-- **The outline of a run.** After any part of the lines the document is laid out. -/
theorem outlined_run (regular : IsRegular mode kind text) :
    ∀ done later, tokens mode kind text = done ++ later →
      Tracker.Outlined (tokens mode kind text) done (trackerAfter mode kind done) := by
  refine invariant mode kind text (outlined_start regular _) fun done token later split ih => ?_
  have member : token ∈ tokens mode kind text :=
    split ▸ List.mem_append_right _ List.mem_cons_self
  rw [trackerAfter_concat]
  exact ih.push (holdsBlock_run mode kind text split) (classified_of_mem member) member
    (suits_of_split regular split)

end Rebuild

end PlaybookRepair
