import ChainLint.Proofs.Registry
import ChainLint.Proofs.StoreRuns
import Mathlib.Data.List.Nodup
/-!
# The rules of a session

`rules_in_effect`: of the rule that is always there and the loaded ones, each
name counts for the first rule that has it. The others are told and have no
effect, even where the first one is disabled. Registering keeps the names that
occurred so far (`Registry.Reachable.extend_eq`), so a rule is refused if and
only if its name occurred before, and leaving out the disabled rules never
fails.
-/

namespace ChainLint

/-! ## Names that occurred before -/

namespace Rule

/-- The rules of a list, each with the names that occur before it. -/
def withNamesBefore (before : List String) : List Rule → List (List String × Rule)
  | [] => []
  | rule :: rest => (before, rule) :: withNamesBefore (before ++ [rule.name]) rest

/-- The rules whose names did not occur before. -/
def firsts (before : List String) (rules : List Rule) : List Rule :=
  ((withNamesBefore before rules).filter fun p => !p.1.contains p.2.name).map (·.2)

/-- The rules whose names occurred before. -/
def repeats (before : List String) (rules : List Rule) : List Rule :=
  ((withNamesBefore before rules).filter fun p => p.1.contains p.2.name).map (·.2)

variable {before : List String} {rule : Rule} {rest : List Rule}

theorem firsts_cons_of_mem (h : rule.name ∈ before) :
    firsts before (rule :: rest) = firsts (before ++ [rule.name]) rest := by
  rw [firsts, withNamesBefore, List.filter_cons_of_neg (by simpa using h)]
  rfl

theorem firsts_cons_of_not_mem (h : rule.name ∉ before) :
    firsts before (rule :: rest) = rule :: firsts (before ++ [rule.name]) rest := by
  rw [firsts, withNamesBefore, List.filter_cons_of_pos (by simpa using h)]
  rfl

theorem repeats_cons_of_mem (h : rule.name ∈ before) :
    repeats before (rule :: rest) = rule :: repeats (before ++ [rule.name]) rest := by
  rw [repeats, withNamesBefore, List.filter_cons_of_pos (by simpa using h)]
  rfl

theorem repeats_cons_of_not_mem (h : rule.name ∉ before) :
    repeats before (rule :: rest) = repeats (before ++ [rule.name]) rest := by
  rw [repeats, withNamesBefore, List.filter_cons_of_neg (by simpa using h)]
  rfl

/-- Only which names occurred before matters. -/
theorem firsts_congr {before' : List String} (h : ∀ name, name ∈ before ↔ name ∈ before') (rules : List Rule) :
    firsts before rules = firsts before' rules := by
  induction rules generalizing before before' with
  | nil => rfl
  | cons rule rest ih =>
    have next := @ih (before ++ [rule.name]) (before' ++ [rule.name]) (by simp [h])
    by_cases hm : rule.name ∈ before
    · rw [firsts_cons_of_mem hm, firsts_cons_of_mem ((h _).1 hm), next]
    · rw [firsts_cons_of_not_mem hm, firsts_cons_of_not_mem (mt (h _).2 hm), next]

/-- A rule whose name occurred before may be left out of the list. -/
theorem firsts_erase (earlier later : List Rule) (h : rule.name ∈ before ++ earlier.map (·.name)) :
    firsts before (earlier ++ rule :: later) = firsts before (earlier ++ later) := by
  induction earlier generalizing before with
  | nil =>
    rw [List.map_nil, List.append_nil] at h
    rw [List.nil_append, List.nil_append, firsts_cons_of_mem h]
    exact firsts_congr (by simp [h]) later
  | cons first earlier ih =>
    have next := @ih (before ++ [first.name]) (by simpa using h)
    by_cases hm : first.name ∈ before
    · rw [List.cons_append, List.cons_append, firsts_cons_of_mem hm, firsts_cons_of_mem hm, next]
    · rw [List.cons_append, List.cons_append, firsts_cons_of_not_mem hm, firsts_cons_of_not_mem hm, next]

end Rule

/-! ## Registering rules, refused ones included -/

/-- The warning that the name of a rule is taken. -/
def Rule.taken (rule : Rule) : Warning := .duplicateRule (.knownRule rule.name)

/-- Rules are registered if their names did not occur before, and the others are told. -/
theorem Registry.extend_eq {registry : Registry} {before : List String}
    (same : ∀ name, name ∈ registry.rules.map (·.name) ↔ name ∈ before) (rules : List Rule) :
    ∃ extended, registry.extend rules = ⟨(Rule.repeats before rules).map Rule.taken, .ok extended⟩ ∧
      registry.registerAll (Rule.firsts before rules) = .ok extended ∧
      extended.rules = registry.rules ++ Rule.firsts before rules := by
  -- on the rules: the names registered so far are those that occurred so far
  induction rules generalizing registry before with
  | nil => exact ⟨registry, rfl, rfl, (List.append_nil _).symm⟩
  | cons rule rest ih =>
    by_cases hm : rule.name ∈ before
    · have refused : registry.register rule = .error (.knownRule rule.name) := by
        rw [register, if_pos (isSome_get?_iff.2 ((same _).2 hm))]
      have still : ∀ name, name ∈ registry.rules.map (·.name) ↔ name ∈ before ++ [rule.name] := fun name => by
        rw [same, List.mem_append, List.mem_singleton]
        exact ⟨.inl, fun hn => hn.elim id fun eq => eq ▸ hm⟩
      obtain ⟨extended, told, registered, rules⟩ := ih still
      rw [Rule.repeats_cons_of_mem hm, Rule.firsts_cons_of_mem hm]
      refine ⟨extended, ?_, registered, rules⟩
      rw [extend, refused]
      dsimp only
      rw [Told.warn_bind, told]
      rfl
    · obtain ⟨next, hr, hrules⟩ := exists_register (mt (same _).1 hm)
      obtain ⟨extended, told, registered, rules⟩ := @ih next (before ++ [rule.name])
        (by simp [hrules, ← same])
      rw [Rule.repeats_cons_of_not_mem hm, Rule.firsts_cons_of_not_mem hm]
      refine ⟨extended, ?_, ?_, ?_⟩
      · rw [extend, hr]
        exact told
      · rw [registerAll, hr]
        exact registered
      · rw [rules, hrules, List.append_assoc]
        rfl

/-- Disabling never fails, and leaves the rules whose names are not listed. -/
theorem Registry.Reachable.disable_eq {registry : Registry} (h : registry.Reachable) (names : List String) :
    ∃ rest, registry.disable names = ⟨[], .ok rest⟩ ∧ rest.Reachable ∧
      rest.rules = registry.rules.filter fun rule => !names.contains rule.name := by
  unfold Registry.disable
  split
  · next none =>
    rw [List.isEmpty_iff] at none
    subst none
    exact ⟨registry, rfl, h, (List.filter_eq_self.2 fun _ _ => rfl).symm⟩
  · obtain ⟨rest, without, reachable, rules⟩ := h.exists_without names
    exact ⟨rest, by rw [without]; rfl, reachable, rules⟩

/-- There are always some paths to go on with. -/
theorem PathTable.exists_configured (extra : List (SymbolPath × String)) :
    ∃ table, (PathTable.configured extra).result = .ok table := by
  unfold PathTable.configured
  split
  · exact ⟨_, rfl⟩
  · split <;> exact ⟨_, rfl⟩

/-! ## Sessions -/

/-- What a session is made of: the registry to which the first rules of all names come down, and some
paths. -/
theorem Session.configured_eq (config : Config) (loaded : List Rule) :
    ∃ extended registry table, Registry.standard.registerAll (Rule.firsts [invalidRef.name] loaded) = .ok extended ∧
      extended.rules = Rule.firsts [] (invalidRef :: loaded) ∧
      extended.disable config.disabled = ⟨[], .ok registry⟩ ∧
      (PathTable.configured config.paths).result = .ok table ∧
      Session.configured config loaded =
        ⟨(Rule.repeats [] (invalidRef :: loaded)).map Rule.taken ++
          (PathTable.configured config.paths).warnings, .ok ⟨registry, table⟩⟩ := by
  obtain ⟨extended, told, registered, rules⟩ := @Registry.standard.extend_eq [invalidRef.name]
    (fun name => Iff.rfl) loaded
  have reachable := Registry.reachable_standard.registerAll _ registered
  obtain ⟨registry, disabled, -⟩ := reachable.disable_eq config.disabled
  obtain ⟨table, paths⟩ := PathTable.exists_configured config.paths
  have first : invalidRef.name ∉ ([] : List String) := List.not_mem_nil
  refine ⟨extended, registry, table, registered, ?_, disabled, paths, ?_⟩
  · rw [rules, Rule.firsts_cons_of_not_mem first]
    rfl
  · rw [configured, Told.bind_of_ok (by rw [told]), told, Told.bind_of_ok (by rw [disabled]), disabled,
      Told.bind_of_ok paths, Rule.repeats_cons_of_not_mem first]
    simp only [List.nil_append, Told.warnings_pure, Told.result_pure, List.append_nil]

/-- Every name counts for the first rule that has it. A session has these rules in their order, without
the disabled ones, and offers a node of any kind to those of them that ask for it; every other rule is
told once. A rule whose name occurred before has no effect: without it the session is the same, also
where the first rule of that name is disabled. The loaded rules are those of the files that the
configuration names, and then those of the files that the options name. -/
theorem rules_in_effect (config : Config) (loaded : List Rule) :
    ∃ session, Session.configured config loaded =
        ⟨(Rule.repeats [] (invalidRef :: loaded)).map Rule.taken ++
          (PathTable.configured config.paths).warnings, .ok session⟩ ∧
      session.registry.rules =
        (Rule.firsts [] (invalidRef :: loaded)).filter (fun rule => !config.disabled.contains rule.name) ∧
      (∀ kind, session.registry.rulesFor kind =
        session.registry.rules.filter fun rule => rule.nodeKinds.contains kind) ∧
      (∀ before rule after, loaded = before ++ rule :: after →
        rule.name ∈ (invalidRef :: before).map (·.name) →
        (Session.configured config (before ++ after)).result = .ok session) ∧
      ∀ directory store environment (o : Cli.Options) told told',
        Cli.configIn directory store (Cli.configName? o.config environment) = ⟨told, .ok config⟩ →
        Rule.ofFiles (store.contents directory (config.ruleFiles ++ o.ruleFiles)) = ⟨told', .ok loaded⟩ →
        (Cli.readSession (FileStore.access directory) environment o).run store =
          (⟨told ++ (told' ++ (Session.configured config loaded).warnings), .ok session⟩, store) := by
  obtain ⟨extended, registry, table, registered, rules, disabled, paths, session⟩ :=
    Session.configured_eq config loaded
  have reachable := Registry.reachable_standard.registerAll _ registered
  obtain ⟨rest, hrest, hreachable, hrules⟩ := reachable.disable_eq config.disabled
  obtain rfl : rest = registry := by
    rw [disabled] at hrest
    cases hrest
    rfl
  refine ⟨⟨rest, table⟩, session, by rw [hrules, rules], fun kind => hreachable.rulesFor_eq kind, ?_, ?_⟩
  · rintro before rule after rfl occurred
    obtain ⟨extended', registry', table', registered', -, disabled', paths', session'⟩ :=
      Session.configured_eq config (before ++ after)
    -- the same rules are registered in the same order
    rw [← Rule.firsts_erase before after (by simpa using occurred), registered] at registered'
    cases registered'
    rw [disabled] at disabled'
    cases disabled'
    rw [paths] at paths'
    cases paths'
    rw [session']
  · intro directory store environment o told told' hc hl
    rw [Cli.readSession_run, Cli.sessionIn, hc, Told.bind_of_ok rfl]
    dsimp only
    rw [hl, Told.bind_of_ok rfl, session]

/-! ## Two rules of one name -/

/-- A rule that words every call it can identify in the same way. -/
def namedRule (name summary : String) : Rule where
  name
  category := "style"
  nodeKinds := ["Call"]
  nodeKinds_nodup := List.nodup_singleton _
  guards := [.resolves]
  classifier := .constant (some summary)
  severity := "warning"

/-- The second of two rules of one name is told and has no effect, though the first one is disabled. -/
theorem namesake_in_effect :
    let loaded := [namedRule "twin" "first", namedRule "other" "found", namedRule "twin" "second"]
    ∃ session, Session.configured { disabled := ["twin"] } loaded =
        ⟨[.duplicateRule (.knownRule "twin")], .ok session⟩ ∧
      session.registry.rules = [invalidRef, namedRule "other" "found"] ∧
      session.registry.rulesFor "Call" = [invalidRef, namedRule "other" "found"] ∧
      (Session.configured { disabled := ["twin"] } [namedRule "twin" "first", namedRule "other" "found"]).result =
        .ok session := by
  intro loaded
  obtain ⟨session, configured, rules, dispatch, noEffect, -⟩ :=
    rules_in_effect { disabled := ["twin"] } loaded
  have left : session.registry.rules = [invalidRef, namedRule "other" "found"] := rules
  refine ⟨session, configured, left, ?_, ?_⟩
  · rw [dispatch, left]
    rfl
  · exact noEffect [namedRule "twin" "first", namedRule "other" "found"] (namedRule "twin" "second") [] rfl
      (by decide)

end ChainLint
