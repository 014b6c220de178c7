import PlaybookRepair.Repair

/-!
# Escalation of a repair

A repair runs through at most three texts: the source, the text of the first strategy and the text
of the last one. The main statement, `repair_escalates`, says which of them is the result and that
everything else in the result belongs to that text: an accepted source is returned untouched, the
first accepted text in the order of the plan is returned with its own strategy and reports, and
after a failure the result is the last attempt with the diagnostic of its own text. A failed repair
always rests on an attempt, so the diagnostic for a repair without strategies does not occur.
-/

namespace PlaybookRepair

/-- A text is accepted exactly if its verification finds nothing. -/
theorem FileKind.accepts_iff (kind : FileKind) (text : Text) :
    kind.accepts text = true ↔ kind.verify text = .ok () := by
  unfold FileKind.accepts
  cases kind.verify text with
  | ok _ => simp [Except.isOk, Except.toBool]
  | error _ => simp [Except.isOk, Except.toBool]

/-- A text is refused exactly if its verification gives a rejection. -/
theorem FileKind.not_accepts_iff (kind : FileKind) (text : Text) :
    ¬ kind.accepts text = true ↔ ∃ rejection, kind.verify text = .error rejection := by
  rw [FileKind.accepts_iff]
  cases kind.verify text with
  | ok _ => simp
  | error rejection => simp

/-- A diagnostic holds at most a hundred characters. -/
theorem Rejection.diagnostic_length_le (rejection : Rejection) :
    rejection.diagnostic.length ≤ diagnosticLimit := by
  simp only [Rejection.diagnostic, cutDiagnostic, String.length_ofList]
  exact List.length_take_le _ _

/-- The strategy is the first one in the plan of a kind whose text is accepted. -/
def FileKind.FirstAccepted (kind : FileKind) (defaults : MetaDefaults) (text : Text)
    (strategy : Strategy) : Prop :=
  kind.accepts (kind.candidate defaults text strategy).text ∧
    ∃ tried later, kind.plan = tried ++ strategy :: later ∧
      ∀ earlier ∈ tried, ¬ kind.accepts (kind.candidate defaults text earlier).text

namespace Repair

variable {kind : FileKind} {defaults : MetaDefaults} {text : Text}

/-- Strategies that come to nothing leave the first accepted one to be found. -/
theorem tryStrategies_of_accepted {tried later : List Strategy} {strategy : Strategy}
    (rejected : ∀ earlier ∈ tried, ¬ kind.accepts (kind.candidate defaults text earlier).text)
    (accepted : kind.accepts (kind.candidate defaults text strategy).text) :
    (tryStrategies kind defaults text (tried ++ strategy :: later)).2 =
      some (strategy, kind.candidate defaults text strategy) := by
  induction tried with
  | nil =>
      have verified := (kind.accepts_iff _).mp accepted
      simp only [List.nil_append, tryStrategies, verified]
  | cons earlier tried ih =>
      obtain ⟨rejection, refused⟩ :=
        (kind.not_accepts_iff _).mp (rejected earlier (List.mem_cons_self ..))
      simp only [List.cons_append, tryStrategies, refused]
      exact ih fun other member => rejected other (List.mem_cons_of_mem _ member)

/-- If no text is accepted, nothing is found and every strategy has left its attempt. -/
theorem tryStrategies_of_rejected {strategies : List Strategy}
    (rejected : ∀ strategy ∈ strategies,
      ¬ kind.accepts (kind.candidate defaults text strategy).text) :
    (tryStrategies kind defaults text strategies).2 = none ∧
      (tryStrategies kind defaults text strategies).1.map Attempt.strategy = strategies ∧
      ∀ attempt ∈ (tryStrategies kind defaults text strategies).1,
        attempt.rebuilt = kind.candidate defaults text attempt.strategy ∧
          kind.verify attempt.rebuilt.text = .error attempt.rejection := by
  induction strategies with
  | nil => simp [tryStrategies]
  | cons strategy rest ih =>
      obtain ⟨rejection, refused⟩ :=
        (kind.not_accepts_iff _).mp (rejected strategy (List.mem_cons_self ..))
      obtain ⟨found, strategies, attempts⟩ :=
        ih fun other member => rejected other (List.mem_cons_of_mem _ member)
      simp only [tryStrategies, refused]
      refine ⟨found, by rw [List.map_cons, strategies], ?_⟩
      intro attempt member
      rcases List.mem_cons.mp member with rfl | member
      · exact ⟨rfl, refused⟩
      · exact attempts attempt member

/-- An accepted source ends the repair. -/
theorem course_of_accepted (accepted : kind.accepts text) :
    (course kind defaults text).result = .unchanged kind text := by
  have verified := (kind.accepts_iff _).mp accepted
  simp only [course, verified]

/-- A refused source gives way to the first accepted text of the plan. -/
theorem course_of_firstAccepted (refused : ¬ kind.accepts text) {strategy : Strategy}
    (first : kind.FirstAccepted defaults text strategy) :
    (course kind defaults text).result =
      .accepted kind strategy (kind.candidate defaults text strategy) := by
  obtain ⟨rejection, unverified⟩ := (kind.not_accepts_iff _).mp refused
  obtain ⟨accepted, tried, later, plan, rejected⟩ := first
  have found : (tryStrategies kind defaults text (tried ++ strategy :: later)).2 = _ :=
    tryStrategies_of_accepted rejected accepted
  simp only [course, unverified, plan, found]

/-- Every plan ends with the full rebuild. -/
theorem plan_getLast? (kind : FileKind) : kind.plan.getLast? = some .fullRebuild := by
  cases kind <;> rfl

/-- If nothing is accepted, the result is the attempt of the full rebuild. -/
theorem course_of_rejected (refused : ¬ kind.accepts text)
    (rejected : ∀ strategy ∈ kind.plan,
      ¬ kind.accepts (kind.candidate defaults text strategy).text) :
    ∃ attempt, (course kind defaults text).attempts.getLast? = some attempt ∧
      attempt.rebuilt = kind.candidate defaults text .fullRebuild ∧
      kind.verify attempt.rebuilt.text = .error attempt.rejection ∧
      (course kind defaults text).result =
        .failed kind .fullRebuild attempt.rebuilt attempt.rejection.diagnostic := by
  obtain ⟨rejection, unverified⟩ := (kind.not_accepts_iff _).mp refused
  obtain ⟨found, strategies, attempts⟩ := tryStrategies_of_rejected rejected
  have last : (tryStrategies kind defaults text kind.plan).1.getLast?.map Attempt.strategy =
      some .fullRebuild := by
    rw [← List.getLast?_map, strategies, plan_getLast?]
  obtain ⟨attempt, isLast, strategy⟩ := Option.map_eq_some_iff.mp last
  obtain ⟨rebuilt, error⟩ := attempts attempt (List.mem_of_getLast? isLast)
  rw [strategy] at rebuilt
  refine ⟨attempt, ?_, rebuilt, error, ?_⟩
  · simp only [course, unverified, isLast]
  · simp only [course, unverified, found, giveUp, isLast, strategy]

/-- Of the strategies of a plan none has an accepted text, or there is a first one that has. -/
theorem rejected_or_firstAccepted (kind : FileKind) (defaults : MetaDefaults) (text : Text) :
    (∀ strategy ∈ kind.plan, ¬ kind.accepts (kind.candidate defaults text strategy).text) ∨
      ∃ strategy, kind.FirstAccepted defaults text strategy := by
  cases found : kind.plan.find? fun strategy =>
      kind.accepts (kind.candidate defaults text strategy).text with
  | none =>
      left
      intro strategy member
      exact List.find?_eq_none.mp found strategy member
  | some strategy =>
      right
      obtain ⟨accepted, tried, later, plan, rejected⟩ := List.find?_eq_some_iff_append.mp found
      refine ⟨strategy, accepted, tried, later, plan, ?_⟩
      intro earlier member
      simpa using rejected earlier member

/-- The three courses of a repair: the source is accepted, or some text of the plan is, or none. -/
theorem course_cases (kind : FileKind) (defaults : MetaDefaults) (text : Text) :
    (kind.accepts text ∧ (course kind defaults text).result = .unchanged kind text) ∨
      (¬ kind.accepts text ∧ ∃ strategy, kind.FirstAccepted defaults text strategy ∧
        (course kind defaults text).result =
          .accepted kind strategy (kind.candidate defaults text strategy)) ∨
      (¬ kind.accepts text ∧
        (∀ strategy ∈ kind.plan, ¬ kind.accepts (kind.candidate defaults text strategy).text) ∧
        ∃ attempt, (course kind defaults text).attempts.getLast? = some attempt ∧
          attempt.rebuilt = kind.candidate defaults text .fullRebuild ∧
          kind.verify attempt.rebuilt.text = .error attempt.rejection ∧
          (course kind defaults text).result =
            .failed kind .fullRebuild attempt.rebuilt attempt.rejection.diagnostic) := by
  by_cases accepted : kind.accepts text
  · exact .inl ⟨accepted, course_of_accepted accepted⟩
  · rcases rejected_or_firstAccepted kind defaults text with rejected | ⟨strategy, first⟩
    · exact .inr (.inr ⟨accepted, rejected, course_of_rejected accepted rejected⟩)
    · exact .inr (.inl ⟨accepted, strategy, first, course_of_firstAccepted accepted first⟩)

end Repair

/-- **The contract of a repair.** The kind is the one found for the source. The repair is valid
exactly if the source is accepted, and then nothing is changed or said. Otherwise the repair is
fixed exactly if some text of the plan is accepted; text, strategy and reports are those of the
first one in the order of the plan, and the text differs from the source. Otherwise it has failed
with the last attempt of the plan, which is the full rebuild, and the diagnostic is that of its
text. -/
theorem repair_escalates (defaults : MetaDefaults) (path text : Text) :
    let kind := FileKind.detect path text
    let candidate := kind.candidate defaults text
    let result := repair defaults path text
    result.kind = kind ∧
    kind.plan = (if kind = .vars ∨ kind = .roleMeta then [.fullRebuild]
      else [.incremental, .fullRebuild]) ∧
    (result.status = .valid ↔ kind.accepts text) ∧
    (kind.accepts text → result.text = text ∧ result.strategy = .untouched ∧
      result.diagnostic = none ∧ result.ambiguities = []) ∧
    (¬ kind.accepts text → (∃ strategy ∈ kind.plan, kind.accepts (candidate strategy).text) →
      result.status = .fixed ∧ kind.FirstAccepted defaults text result.strategy ∧
      result.text = (candidate result.strategy).text ∧
      result.ambiguities = (candidate result.strategy).ambiguities ∧
      kind.accepts result.text ∧ result.text ≠ text) ∧
    (¬ kind.accepts text → (∀ strategy ∈ kind.plan, ¬ kind.accepts (candidate strategy).text) →
      result.status = .failed ∧ result.strategy = .fullRebuild ∧
      result.text = (candidate .fullRebuild).text ∧
      result.ambiguities = (candidate .fullRebuild).ambiguities ∧
      ∃ attempt, (Repair.course kind defaults text).attempts.getLast? = some attempt ∧
        attempt.rebuilt.text = result.text ∧
        kind.verify result.text = .error attempt.rejection ∧
        result.diagnostic = some (cutDiagnostic attempt.rejection.message) ∧
        (cutDiagnostic attempt.rejection.message).length ≤ 100) := by
  intro kind candidate result
  have plan : kind.plan = (if kind = .vars ∨ kind = .roleMeta then [.fullRebuild]
      else [.incremental, .fullRebuild]) := by
    cases kind <;> rfl
  rcases Repair.course_cases kind defaults text with ⟨accepted, outcome⟩ |
    ⟨refused, strategy, first, outcome⟩ |
    ⟨refused, rejected, attempt, isLast, rebuilt, error, outcome⟩
  · change result = .unchanged kind text at outcome
    rw [outcome]
    exact ⟨rfl, plan, ⟨fun _ => accepted, fun _ => rfl⟩, fun _ => ⟨rfl, rfl, rfl, rfl⟩,
      fun refused => (refused accepted).elim, fun refused => (refused accepted).elim⟩
  · change result = .accepted kind strategy (candidate strategy) at outcome
    have valid : kind.accepts (candidate strategy).text := first.1
    rw [outcome]
    refine ⟨rfl, plan, ⟨(nomatch ·), fun valid => (refused valid).elim⟩,
      fun valid => (refused valid).elim, fun _ _ => ?_, fun _ rejected => ?_⟩
    · refine ⟨rfl, first, rfl, rfl, valid, ?_⟩
      intro same
      change (candidate strategy).text = text at same
      rw [same] at valid
      exact refused valid
    · obtain ⟨_, tried, later, order, _⟩ := first
      refine (rejected strategy ?_ valid).elim
      rw [order]
      exact List.mem_append_right tried (List.mem_cons_self ..)
  · change result = .failed kind .fullRebuild attempt.rebuilt _ at outcome
    rw [outcome]
    refine ⟨rfl, plan, ⟨(nomatch ·), fun valid => (refused valid).elim⟩,
      fun valid => (refused valid).elim, ?_, fun _ _ => ?_⟩
    · rintro - ⟨strategy, member, valid⟩
      exact (rejected strategy member valid).elim
    · exact ⟨rfl, rfl, congrArg Rebuilt.text rebuilt, congrArg Rebuilt.ambiguities rebuilt,
        attempt, isLast, rfl, error, rfl, attempt.rejection.diagnostic_length_le⟩

end PlaybookRepair
