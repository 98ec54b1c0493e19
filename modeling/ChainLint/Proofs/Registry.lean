import ChainLint.Rule.Registry
/-!
# What a registry offers to a node

`Registry.Reachable.rulesFor_eq`: in every registry that registration can make,
the rules kept for a kind are the registered rules that ask for it, each once
and in the order of registration. It holds of the empty registry, and
registering keeps it because a rule lists no kind twice. Names stay distinct
(`Registry.Reachable.names_nodup`), so a registry can be made again from some of
its rules (`Registry.Reachable.exists_without`).
-/

namespace ChainLint

/-- A step that goes on gave a result to go on with. -/
theorem exists_of_bind_eq_ok {ε α β : Type} {x : Except ε α} {f : α → Except ε β} {b : β}
    (h : (x >>= f) = .ok b) : ∃ a, x = .ok a ∧ f a = .ok b := by
  cases x with
  | error e => cases h
  | ok a => exact ⟨a, rfl, h⟩

namespace Registry

/-- Registries as they come about: rules are registered one after another. -/
inductive Reachable : Registry → Prop
  | empty : Reachable Registry.empty
  | register {r r' : Registry} {rule : Rule} :
      Reachable r → r.register rule = .ok r' → Reachable r'

/-! ## Keeping rules by kind -/

/-- The rules under a kind once a rule was put last under some kinds. -/
theorem rules_foldl_dispatch (rule : Rule) (kind : String) (kinds : List String) (hn : kinds.Nodup)
    (t : Table String (List Rule)) :
    ((kinds.foldl (dispatch rule) t).get? kind).getD [] =
      (t.get? kind).getD [] ++ if kinds.contains kind then [rule] else [] := by
  induction kinds generalizing t with
  | nil => simp
  | cons k ks ih =>
    obtain ⟨hk, hks⟩ := List.nodup_cons.1 hn
    rw [List.foldl_cons, ih hks, dispatch, Table.get?_insert]
    by_cases h : k = kind
    · subst h
      simp [hk]
    · simp [h, Ne.symm h]

theorem rulesFor_register {r r' : Registry} {rule : Rule} (h : r.register rule = .ok r')
    (kind : String) :
    r'.rulesFor kind = r.rulesFor kind ++ if rule.nodeKinds.contains kind then [rule] else [] := by
  unfold register at h
  split at h
  · cases h
  · cases h
    exact rules_foldl_dispatch rule kind _ rule.nodeKinds_nodup _

theorem rules_register {r r' : Registry} {rule : Rule} (h : r.register rule = .ok r') :
    r'.rules = r.rules ++ [rule] := by
  unfold register at h
  split at h <;> cases h
  rfl

/-- The rules that ask for a kind are found under it, in the order of registration. -/
theorem Reachable.rulesFor_eq {r : Registry} (h : r.Reachable) (kind : String) :
    r.rulesFor kind = r.rules.filter fun rule => rule.nodeKinds.contains kind := by
  induction h with
  | empty => rfl
  | @register r r' rule _ hr ih =>
    rw [rulesFor_register hr, rules_register hr, ih, List.filter_append]
    congr 1
    by_cases hk : rule.nodeKinds.contains kind <;> simp [List.filter_cons]

/-! ## Registries made in other ways -/

theorem Reachable.registerAll {r r' : Registry} (h : r.Reachable) (rules : List Rule)
    (hr : r.registerAll rules = .ok r') : r'.Reachable := by
  induction rules generalizing r with
  | nil =>
    cases hr
    exact h
  | cons rule rest ih =>
    obtain ⟨next, hn, hr⟩ := exists_of_bind_eq_ok hr
    exact ih (.register h hn) hr

theorem reachable_ofRules {rules : List Rule} {r : Registry} (h : ofRules rules = .ok r) :
    r.Reachable :=
  Reachable.empty.registerAll rules h

theorem reachable_standard : standard.Reachable := by
  have h : ofRules [invalidRef] = .ok standard := rfl
  exact reachable_ofRules h

/-! ## Distinct names -/

theorem get?_eq_none_iff {r : Registry} {name : String} :
    r.get? name = none ↔ name ∉ r.rules.map (·.name) := by
  simp [get?, List.find?_eq_none]

theorem isSome_get?_iff {r : Registry} {name : String} :
    (r.get? name).isSome = true ↔ name ∈ r.rules.map (·.name) := by
  rw [← Option.ne_none_iff_isSome, ne_eq, get?_eq_none_iff, Classical.not_not]

/-- A rule is registered if no rule has its name. -/
theorem exists_register {r : Registry} {rule : Rule} (h : rule.name ∉ r.rules.map (·.name)) :
    ∃ r', r.register rule = .ok r' ∧ r'.rules = r.rules ++ [rule] := by
  have hn : ¬(r.get? rule.name).isSome = true := by rwa [isSome_get?_iff]
  exact ⟨_, by rw [register, if_neg hn], rfl⟩

/-- No two rules of a registry have one name. -/
theorem Reachable.names_nodup {r : Registry} (h : r.Reachable) : (r.rules.map (·.name)).Nodup := by
  induction h with
  | empty => exact List.nodup_nil
  | @register r r' rule _ hr ih =>
    have hn : rule.name ∉ r.rules.map (·.name) := by
      rw [← isSome_get?_iff]
      intro hs
      rw [Registry.register, if_pos hs] at hr
      cases hr
    rw [rules_register hr, List.map_append, List.map_singleton]
    exact List.nodup_append.2 ⟨ih, by simp, fun a ha b hb hab =>
      hn (by rwa [← List.mem_singleton.1 hb, ← hab])⟩

/-- Rules of new and distinct names are all registered. -/
theorem exists_registerAll {r : Registry} {rules : List Rule}
    (h : ((r.rules ++ rules).map (·.name)).Nodup) :
    ∃ r', r.registerAll rules = .ok r' ∧ r'.rules = r.rules ++ rules := by
  induction rules generalizing r with
  | nil => exact ⟨r, rfl, by rw [List.append_nil]⟩
  | cons rule rest ih =>
    have hn : rule.name ∉ r.rules.map (·.name) := by
      rw [List.map_append, List.map_cons, List.nodup_append] at h
      exact fun hm => h.2.2 _ hm _ List.mem_cons_self rfl
    obtain ⟨next, hr, hrules⟩ := exists_register hn
    obtain ⟨r', hr', hrules'⟩ := ih (r := next) (by rwa [hrules, List.append_assoc])
    refine ⟨r', ?_, by rw [hrules', hrules, List.append_assoc]; rfl⟩
    rw [registerAll, hr]
    exact hr'

/-- Leaving rules out never fails, and the others keep their order. -/
theorem Reachable.exists_without {r : Registry} (h : r.Reachable) (names : List String) :
    ∃ rest, r.without names = .ok rest ∧ rest.Reachable ∧
      rest.rules = r.rules.filter fun rule => !names.contains rule.name := by
  have hn : ((r.rules.filter fun rule => !names.contains rule.name).map (·.name)).Nodup :=
    h.names_nodup.sublist (List.filter_sublist.map _)
  obtain ⟨rest, hr, hrules⟩ := exists_registerAll (r := Registry.empty) hn
  exact ⟨rest, hr, reachable_ofRules hr, hrules⟩

end Registry

end ChainLint
