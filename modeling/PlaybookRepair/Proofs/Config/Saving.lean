import PlaybookRepair.CommandLine
import PlaybookRepair.Proofs.Config.Text
import PlaybookRepair.Proofs.Run.File

/-!
# A configuration saved and loaded

Loading reads the text that saving wrote and then expands the root, for which it asks for no more
variables than the root names. What is loaded is the saved configuration with its root expanded
(`configAt_written`), so nothing is lost if expansion leaves the root as it is (`configAt_saved`).
-/

namespace PlaybookRepair

/-! ## Expansion -/

namespace Expansion

variable {first second : List (Text × Text)}

theorem mapM_congr {α β : Type} {f g : α → Option β} {all : List α}
    (same : ∀ item ∈ all, f item = g item) : all.mapM f = all.mapM g := by
  induction all with
  | nil => rfl
  | cons item all ih =>
    rw [List.mapM_cons, List.mapM_cons, same item List.mem_cons_self,
      ih fun other member => same other (List.mem_cons_of_mem item member)]

/-- The expansion of a text depends only on the variables it names and on the home directory. -/
theorem expand?_congr {text : Text} (home : first.lookup homeName = second.lookup homeName)
    (named : ∀ name ∈ names text, first.lookup name = second.lookup name) :
    expand? first text = expand? second text := by
  have values : (parts text).mapM (Part.value? first) = (parts text).mapM (Part.value? second) := by
    refine mapM_congr fun part member => ?_
    cases part with
    | literal c => rfl
    | variableValue name default =>
      rw [Part.value?, Part.value?, named name (List.mem_filterMap.mpr ⟨_, member, rfl⟩)]
  have sameHome : home? first = home? second := by rw [home?, home?, home]
  have sameTilde : tilde first = tilde second := by
    funext text
    simp only [tilde, sameHome]
  rw [expand?, expand?, variables?, variables?, values, sameTilde]

end Expansion

namespace CommandLine

/-- The answers to what is asked about variables. -/
def answers (environment : List (Text × Text)) (names : List Text) : List (Text × Text) :=
  names.flatMap fun name => ((environment.lookup name).map fun value => (name, value)).toList

theorem lookup_answers (environment : List (Text × Text)) (names : List Text) (name : Text) :
    (answers environment names).lookup name =
      if name ∈ names then environment.lookup name else none := by
  induction names with
  | nil => rfl
  | cons first names ih =>
    rw [answers, List.flatMap_cons, ← answers, List.lookup_append, ih]
    by_cases same : name = first
    · subst same
      cases found : environment.lookup name <;> simp
    · cases environment.lookup first <;> simp [List.lookup_cons, same, beq_false_of_ne same]

theorem carryOut_environmentOf (names : List Text) (world : World) :
    (environmentOf names).run.carryOut world = (.ok (answers world.environment names), world) := by
  induction names with
  | nil => rfl
  | cons name names ih =>
    have steps : (environmentOf (name :: names)).run.carryOut world =
        ((environmentOf names).run >>= ExceptT.bindCont fun later =>
          pure (((world.environment.lookup name).map fun value => (name, value)).toList ++
            later)).carryOut world := rfl
    rw [steps, Action.carryOut_bind, ih]
    rfl

/-- The root is expanded with all that is known of its variables. -/
theorem expandRoot_answers (config : Config) (environment : List (Text × Text)) :
    config.expandRoot (answers environment
      (Expansion.homeName :: (config.root.map Expansion.names).getD [])) =
        config.expandRoot environment := by
  cases set : config.root with
  | none => simp only [Config.expandRoot, set, Option.map_none]
  | some root =>
    have home : (answers environment (Expansion.homeName :: Expansion.names root)).lookup
        Expansion.homeName = environment.lookup Expansion.homeName := by
      rw [lookup_answers, if_pos List.mem_cons_self]
    have expands := Expansion.expand?_congr home fun name member => by
      rw [lookup_answers, if_pos (List.mem_cons_of_mem _ member)]
    simp only [Config.expandRoot, set, Option.map_some, Option.getD_some, expands]

/-- A document that is written is there to be read. -/
theorem answer_read {world after : World} {path : Path} {text : Text}
    (saves : world.answer (.write path text) = (.ok (), after)) :
    after.answer (.read path) = (.ok text, after) ∧ after.environment = world.environment := by
  rw [World.answer] at saves
  rcases written : world.tree.writeDocument path text with ⟨saved, _ | error⟩
  · rw [written] at saves
    cases saves
    exact ⟨congrArg (·, _) (FileTree.readDocument_of_writeDocument written), rfl⟩
  · rw [written] at saves
    cases saves

/-- What is loaded after saving is the saved configuration with its root expanded. -/
theorem configAt_written {config : Config} {world after : World} {path : Path}
    (jobs : config.jobs ≤ Toml.Value.greatestCount)
    (saves : world.answer (.write path config.text) = (.ok (), after)) :
    (configAt path).run.carryOut after =
      (.ok (some (config.expandRoot world.environment)), after) := by
  obtain ⟨reads, environment⟩ := answer_read saves
  have content : (ask (.read path)).run.carryOut after = (.ok (.ok config.text), after) := by
    change (Except.ok (after.answer (.read path)).1, (after.answer (.read path)).2) = _
    rw [reads]
  rw [configAt, ExceptT.run_bind, Action.carryOut_bind, content]
  simp only [Config.ofFile, Config.parse_text path jobs]
  change ((environmentOf _).run >>= ExceptT.bindCont fun environment =>
    pure (some (config.expandRoot environment))).carryOut after = _
  rw [Action.carryOut_bind, carryOut_environmentOf, environment]
  change (Except.ok (some (config.expandRoot (answers _ _))), after) = _
  rw [expandRoot_answers]

/-- A configuration that is saved is loaded as it was if expansion leaves its root as it is. -/
theorem configAt_saved {config : Config} {world after : World} {path : Path}
    (jobs : config.jobs < 2 ^ 63)
    (root : ∀ root ∈ config.root, (Expansion.expand? world.environment root).getD root = root)
    (saves : world.answer (.write path config.text) = (.ok (), after)) :
    (configAt path).run.carryOut after = (.ok (some config), after) := by
  have few : config.jobs ≤ Toml.Value.greatestCount :=
    (Nat.le_of_lt jobs).trans (by decide)
  have same : config.root.map (fun root => (Expansion.expand? world.environment root).getD root) =
      config.root := by
    cases set : config.root with
    | none => rfl
    | some path => exact congrArg some (root path set)
  rw [configAt_written few saves, Config.expandRoot, same]

/-- The directory of the file is made, and a root with an unknown variable stays as it is. -/
theorem configAt_saved_unknown :
    let config : Config :=
      { root := some "/srv/$SITE".toList, policy := .bestEffort, backup := false,
        exclude := ["it's \"\"\"\nquoted".toList, []], jobs := 4,
        overrides :=
          { company := some "a\tb".toList, galaxyTags := some [],
            platforms := some [⟨"EL".toList, []⟩, ⟨[], ["9".toList]⟩] } }
    let world : World := { environment := [("HOME".toList, "/home/user".toList)] }
    let saved := world.answer (.write "settings/config.toml".toList config.text)
    saved.1 = .ok () ∧
      (configAt "settings/config.toml".toList).run.carryOut saved.2 =
        (.ok (some config), saved.2) := by
  intro config world saved
  have saves : saved.1 = .ok () := rfl
  refine ⟨saves, configAt_saved (by decide) ?_ (Prod.ext saves rfl)⟩
  rintro _ ⟨⟩
  decide +kernel

end CommandLine

end PlaybookRepair
