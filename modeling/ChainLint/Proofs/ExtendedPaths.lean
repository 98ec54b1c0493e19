import ChainLint.Proofs.PathTables
import ChainLint.Proofs.RuleSet
/-!
# Configured paths are taken all together or not at all

`extension_all_or_nothing`: the standard table can be extended if and only if
no new path is empty, repeated or known. Otherwise a session goes on as if no
paths were configured, and tells it once. Tables in use agree
(`PathTables.Shares.extend`): an extension fills a copy, and a copy that is refused
a path is left behind, so the standard table that all share stays what it is.
-/

namespace ChainLint

/-! ## Registering pairs -/

namespace PathTable

variable {t t' : PathTable} {extra : List (SymbolPath × String)}

/-- Pairs are all registered if no path is empty, repeated or known. They come last, in their order. -/
theorem registerAll_eq_ok_iff (unfrozen : t.isFrozen = false) (distinct : t.entries.DistinctKeys) :
    t.registerAll extra = .ok t' ↔ (∀ e ∈ extra, e.1.segments ≠ []) ∧
      ((t.entries.entries ++ extra).map (·.1)).Nodup ∧ t' = ⟨⟨t.entries.entries ++ extra⟩, false⟩ := by
  induction extra generalizing t with
  | nil =>
    obtain ⟨⟨entries⟩, isFrozen⟩ := t
    cases unfrozen
    simp only [registerAll, List.append_nil, Except.ok.injEq]
    exact ⟨fun h => ⟨nofun, distinct, h.symm⟩, fun h => h.2.2.symm⟩
  | cons e rest ih =>
    obtain ⟨path, tag⟩ := e
    have first : t.registerAll ((path, tag) :: rest) = .ok t' ↔
        ∃ next, t.register path tag = .ok next ∧ next.registerAll rest = .ok t' := by
      constructor
      · exact exists_of_bind_eq_ok
      · rintro ⟨next, registered, later⟩
        rw [registerAll, registered]
        exact later
    have later := @ih ⟨⟨t.entries.entries ++ [(path, tag)]⟩, t.isFrozen⟩ unfrozen
    rw [first, List.append_cons, List.forall_mem_cons]
    simp only [register_eq_ok_iff]
    constructor
    · rintro ⟨next, ⟨-, nonempty, new, rfl⟩, registered⟩
      have keys := distinct.append (List.nodup_singleton path) (by simpa using new)
      obtain ⟨nonempties, nodup, rfl⟩ := (later (by simpa [Table.DistinctKeys] using keys)).1 registered
      exact ⟨⟨nonempty, nonempties⟩, nodup, rfl⟩
    · rintro ⟨⟨nonempty, nonempties⟩, nodup, rfl⟩
      have keys : ((t.entries.entries ++ [(path, tag)]).map (·.1)).Nodup :=
        nodup.sublist ((List.sublist_append_left _ rest).map _)
      have new : path ∉ t.entries.entries.map (·.1) := by
        rw [List.map_append] at keys
        exact fun hm => (List.nodup_append.1 keys).2.2 path hm path (by simp) rfl
      exact ⟨_, ⟨unfrozen, nonempty, new, rfl⟩, (later keys).2 ⟨nonempties, nodup, rfl⟩⟩

/-- Paths that can be configured together: none of them is empty, repeated or always known. -/
structure Acceptable (extra : List (SymbolPath × String)) : Prop where
  nonempty : ∀ e ∈ extra, e.1.segments ≠ []
  distinct : (extra.map (·.1)).Nodup
  new : ∀ e ∈ extra, e.1 ∉ standardEntries.map (·.1)

theorem nodup_standardEntries_append_iff : ((standardEntries ++ extra).map (·.1)).Nodup ↔
    (extra.map (·.1)).Nodup ∧ ∀ e ∈ extra, e.1 ∉ standardEntries.map (·.1) := by
  have keys : (standardEntries.map (·.1)).Nodup := by decide
  rw [List.map_append, List.nodup_append]
  constructor
  · rintro ⟨-, distinct, apart⟩
    exact ⟨distinct, fun e he hm => apart _ hm _ (List.mem_map_of_mem he) rfl⟩
  · rintro ⟨distinct, new⟩
    refine ⟨keys, distinct, ?_⟩
    rintro a ha b hb rfl
    obtain ⟨e, he, rfl⟩ := List.mem_map.1 hb
    exact new e he ha

/-- The standard table can be extended by acceptable paths only, and then has them last. -/
theorem extended_eq_ok_iff :
    extended extra = .ok t ↔ Acceptable extra ∧ t = ⟨⟨standardEntries ++ extra⟩, true⟩ := by
  have keys : standard.copy.entries.DistinctKeys := by decide
  constructor
  · intro h
    obtain ⟨filled, registered, h⟩ := exists_of_bind_eq_ok h
    obtain ⟨nonempty, nodup, rfl⟩ := (registerAll_eq_ok_iff rfl keys).1 registered
    cases h
    obtain ⟨distinct, new⟩ := nodup_standardEntries_append_iff.1 nodup
    exact ⟨⟨nonempty, distinct, new⟩, rfl⟩
  · rintro ⟨⟨nonempty, distinct, new⟩, rfl⟩
    have nodup := nodup_standardEntries_append_iff.2 ⟨distinct, new⟩
    rw [extended, (registerAll_eq_ok_iff rfl keys).2 ⟨nonempty, nodup, rfl⟩]
    rfl

/-- What a session makes of configured paths. -/
theorem configured_eq (extra : List (SymbolPath × String)) : configured extra =
    match extended extra with
    | .ok t => ⟨[], .ok t⟩
    | .error fault => ⟨[.refusedPaths fault], .ok standard⟩ := by
  unfold configured
  split
  · next none =>
    rw [List.isEmpty_iff.1 none]
    rfl
  · cases extended extra <;> rfl

end PathTable

/-- The configured paths decide what the paths of a session are, and nothing else but their own warning. -/
theorem Session.configured_paths (config : Config) (loaded : List Rule) :
    ∃ told registry, Session.configured { config with paths := [] } loaded =
        ⟨told, .ok ⟨registry, PathTable.standard⟩⟩ ∧
      Session.configured config loaded =
        match PathTable.extended config.paths with
        | .ok table => ⟨told, .ok ⟨registry, table⟩⟩
        | .error fault => ⟨told ++ [.refusedPaths fault], .ok ⟨registry, PathTable.standard⟩⟩ := by
  obtain ⟨extended, registry, table, registered, -, disabled, paths, configured⟩ :=
    Session.configured_eq config loaded
  obtain ⟨extended', registry', table', registered', -, disabled', paths', configured'⟩ :=
    Session.configured_eq { config with paths := [] } loaded
  rw [registered] at registered'
  cases registered'
  rw [disabled] at disabled'
  cases disabled'
  cases paths'
  have told' : (PathTable.configured []).warnings = [] := rfl
  refine ⟨_, registry, configured', configured.trans ?_⟩
  rw [PathTable.configured_eq] at paths ⊢
  dsimp only
  rw [told', List.append_nil]
  cases h : PathTable.extended config.paths with
  | ok t =>
    rw [h] at paths
    cases paths
    simp
  | error fault =>
    rw [h] at paths
    cases paths
    rfl

/-! ## Extensions of a shared table -/

namespace PathTables

variable {s : PathTables} {place : Nat} {t : PathTable}

theorem put_put (s : PathTables) (place : Nat) (t t' : PathTable) :
    (s.put place t).put place t' = s.put place t' := by
  unfold put
  cases known : s.handles[place]? with
  | none => simp [known]
  | some handle =>
    obtain ⟨hp, -⟩ := List.getElem?_eq_some_iff.1 known
    simp [hp]

theorem put_self (known : s.get? place = some t) : s.put place t = s := by
  obtain ⟨handle, hh, entries, he, rfl⟩ := get?_eq_some_iff.1 known
  obtain ⟨hp, rfl⟩ := List.getElem?_eq_some_iff.1 hh
  obtain ⟨hd, rfl⟩ := List.getElem?_eq_some_iff.1 he
  rw [put, hh]
  show PathTables.mk (s.dictionaries.set _ s.dictionaries[s.handles[place].dictionary])
    (s.handles.set place s.handles[place]) s.standard = s
  rw [List.set_getElem_self, List.set_getElem_self]

theorem standard_put (s : PathTables) (place : Nat) (t : PathTable) : (s.put place t).standard = s.standard := by
  unfold put
  split <;> rfl

/-- Registering pairs on a table in use is registering them on the table. A refusal leaves something
at the place. -/
theorem registerAll_on (sound : s.Sound) (known : s.get? place = some t) (extra : List (SymbolPath × String)) :
    ∃ u, (registerAll place extra).on s = match t.registerAll extra with
      | .ok t' => (.ok (), s.put place t')
      | .error fault => (.error (.refused fault), s.put place u) := by
  induction extra generalizing s t with
  | nil =>
    refine ⟨t, ?_⟩
    show _ = (Except.ok (), s.put place t)
    rw [put_self known]
    rfl
  | cons e rest ih =>
    obtain ⟨path, tag⟩ := e
    rw [registerAll, Update.on_bind, register_on known, PathTable.registerAll]
    cases t.register path tag with
    | error fault => exact ⟨t, by rw [put_self known]; rfl⟩
    | ok next =>
      have known' : (s.put place next).get? place = some next := by rw [sound.get?_put known, if_pos rfl]
      obtain ⟨u, hu⟩ := ih (sound.put place next) known'
      simp only [put_put] at hu
      exact ⟨u, hu⟩

/-- The reply to an extension is the place of the extended table, or why there is none. -/
def Agrees (s : PathTables) (extra : List (SymbolPath × String)) (reply : Except UpdateFault Nat) : Prop :=
  match PathTable.extended extra with
  | .ok t => ∃ place, reply = .ok place ∧ s.get? place = some t
  | .error fault => reply = .error (.refused fault)

/-- What was in use stays as it is. -/
def Keeps (s s' : PathTables) : Prop := ∀ place t, s.get? place = some t → s'.get? place = some t

theorem Agrees.later {s' : PathTables} {extra : List (SymbolPath × String)} {reply : Except UpdateFault Nat}
    (h : Agrees s extra reply) (kept : s.Keeps s') : Agrees s' extra reply := by
  unfold Agrees at h ⊢
  split at h
  · obtain ⟨place, done, there⟩ := h
    exact ⟨place, done, kept place _ there⟩
  · exact h

/-- The tables in use and the shared standard table, if it was made. -/
structure Shares (s : PathTables) (base : Nat) : Prop where
  sound : s.Sound
  standard : s.standard = some base
  known : s.get? base = some PathTable.standard

theorem Shares.shared_on {base : Nat} (h : s.Shares base) : shared.on s = (.ok base, s) := by
  rw [shared, Update.on_bind, Update.on_get]
  dsimp only
  rw [h.standard]
  rfl

/-- An extension touches nothing that is in use, whether it goes well or not. -/
theorem Shares.extend {base : Nat} (h : s.Shares base) (extra : List (SymbolPath × String)) :
    ((extend extra).on s).2.Shares base ∧ s.Keeps ((extend extra).on s).2 ∧
      Agrees ((extend extra).on s).2 extra ((extend extra).on s).1 := by
  have sound := h.sound.add PathTable.standard.copy
  have known : (s.add PathTable.standard.copy).get? s.handles.length = some PathTable.standard.copy := by
    rw [h.sound.get?_add, if_pos rfl]
  -- whatever comes to stand at the place of the copy, no table that was in use is touched
  have kept : ∀ u, s.Keeps ((s.add PathTable.standard.copy).put s.handles.length u) := by
    intro u p t hp
    have old : p ≠ s.handles.length := Nat.ne_of_lt (h.sound.exists_get?_iff.1 ⟨t, hp⟩)
    rw [sound.get?_put known, if_neg old, h.sound.get?_add_of_known hp]
  have shares : ∀ u, ((s.add PathTable.standard.copy).put s.handles.length u).Shares base := fun u =>
    ⟨sound.put _ u, (standard_put ..).trans h.standard, kept u _ _ h.known⟩
  obtain ⟨u, filled⟩ := registerAll_on sound known extra
  rw [PathTables.extend, Update.on_bind, h.shared_on]
  dsimp only
  rw [Update.on_bind, copy_on h.known]
  dsimp only
  rw [Update.on_bind, filled]
  cases registered : PathTable.standard.copy.registerAll extra with
  | error fault =>
    refine ⟨shares u, kept u, ?_⟩
    rw [Agrees, PathTable.extended, registered]
    rfl
  | ok t =>
    have there : ((s.add PathTable.standard.copy).put s.handles.length t).get? s.handles.length = some t := by
      rw [sound.get?_put known, if_pos rfl]
    dsimp only
    rw [Update.on_bind, freeze_on there, put_put]
    refine ⟨shares t.freeze, kept t.freeze, ?_⟩
    rw [Agrees, PathTable.extended, registered]
    exact ⟨s.handles.length, rfl, (sound.get?_put known _ _).trans (if_pos rfl)⟩

/-- What is in use when the standard table was just made. -/
def ready : PathTables := ⟨[⟨PathTable.standardEntries⟩], [⟨0, true⟩], some 0⟩

/-- The standard table is made when it is first asked for. -/
theorem shared_on_empty : shared.on empty = (.ok 0, ready) := rfl

theorem shares_ready : ready.Shares 0 := by
  refine ⟨⟨?_, by decide⟩, rfl, rfl⟩
  intro handle hm
  rw [List.mem_singleton.1 hm]
  exact Nat.zero_lt_one

theorem extend_on_empty (extra : List (SymbolPath × String)) : (extend extra).on empty = (extend extra).on ready := by
  rw [extend, Update.on_bind, Update.on_bind, shared_on_empty, shares_ready.shared_on]

/-- Whatever was extended, with whatever success, the standard table is the same, and every table that
came of it is what it was. -/
theorem shares_serveAll (extras : List (List (SymbolPath × String))) :
    let h := (History.start empty).serveAll extend extras
    ∃ s, shared.on h.state = (.ok 0, s) ∧ s.Shares 0 ∧ ∀ e ∈ h.log, Agrees h.state e.1 e.2 := by
  cases extras with
  | nil => exact ⟨ready, shared_on_empty, shares_ready, List.forall_mem_nil _⟩
  | cons first later =>
    intro h
    -- the first extension finds no standard table, but goes on as if it had found it
    have same : h = (History.start ready).serveAll extend (first :: later) := by
      show ((History.start empty).serve extend first).serveAll extend later = _
      rw [History.serve, History.start, extend_on_empty]
      rfl
    obtain ⟨shares, agree⟩ : h.state.Shares 0 ∧ ∀ e ∈ h.log, Agrees h.state e.1 e.2 := by
      have start : ∀ e ∈ (History.start ready).log, Agrees ready e.1 e.2 := List.forall_mem_nil _
      rw [same]
      refine History.serveAll_keeps (P := fun h => h.state.Shares 0 ∧ ∀ e ∈ h.log, Agrees h.state e.1 e.2) ?_
        ⟨shares_ready, start⟩ (first :: later)
      rintro h extra ⟨shares, agree⟩
      obtain ⟨shares', kept, last⟩ := shares.extend extra
      exact ⟨shares', List.forall_mem_cons.2 ⟨last, fun e he => (agree e he).later kept⟩⟩
    exact ⟨h.state, shares.shared_on, shares, agree⟩

end PathTables

/-- The standard table can be extended if and only if no new path is empty, repeated or always known.
The extended table is frozen and has the new entries after the others. If the paths are refused, a
session is the one without any configured paths, with one more warning. Whatever extensions were
made before, the standard table that all share has its own entries and is frozen, and each extension
has come to what it comes to by itself. -/
theorem extension_all_or_nothing (extra : List (SymbolPath × String)) :
    ((∃ t, PathTable.extended extra = .ok t) ↔ PathTable.Acceptable extra) ∧
    (∀ t, PathTable.extended extra = .ok t →
      t.isFrozen = true ∧ t.entries.entries = PathTable.standardEntries ++ extra ∧
      (∀ e ∈ extra, t.lookup e.1 = some e.2) ∧
      (∀ e ∈ PathTable.standardEntries, t.lookup e.1 = some e.2) ∧
      (∀ path, path ∉ (PathTable.standardEntries ++ extra).map (·.1) → t.lookup path = none)) ∧
    (∀ config loaded, config.paths = extra → ∃ told registry,
      Session.configured { config with paths := [] } loaded = ⟨told, .ok ⟨registry, PathTable.standard⟩⟩ ∧
      (∀ t, PathTable.extended extra = .ok t →
        Session.configured config loaded = ⟨told, .ok ⟨registry, t⟩⟩) ∧
      ∀ fault, PathTable.extended extra = .error fault →
        Session.configured config loaded = ⟨told ++ [.refusedPaths fault], .ok ⟨registry, PathTable.standard⟩⟩) ∧
    ∀ extras, let h := (History.start PathTables.empty).serveAll PathTables.extend extras
      ∃ s, PathTables.shared.on h.state = (.ok 0, s) ∧ s.get? 0 = some ⟨⟨PathTable.standardEntries⟩, true⟩ ∧
      ∀ e ∈ h.log, PathTables.Agrees h.state e.1 e.2 := by
  refine ⟨?_, fun t extended => ?_, ?_, fun extras => ?_⟩
  · simp only [PathTable.extended_eq_ok_iff, exists_and_left, exists_eq, and_true]
  · obtain ⟨⟨-, distinct, new⟩, rfl⟩ := PathTable.extended_eq_ok_iff.1 extended
    have nodup := PathTable.nodup_standardEntries_append_iff.2 ⟨distinct, new⟩
    have lookup : ∀ e ∈ PathTable.standardEntries ++ extra,
        Table.find? e.1 (PathTable.standardEntries ++ extra) = some e.2 := fun e he =>
      (Table.find?_eq_some_iff nodup).2 he
    exact ⟨rfl, rfl, fun e he => lookup e (List.mem_append_right _ he),
      fun e he => lookup e (List.mem_append_left _ he), fun path => Table.get?_eq_none_iff.2⟩
  · rintro config loaded rfl
    obtain ⟨told, registry, without, configured⟩ := Session.configured_paths config loaded
    refine ⟨told, registry, without, fun t extended => ?_, fun fault refused => ?_⟩
    · rw [configured, extended]
    · rw [configured, refused]
  · obtain ⟨s, shared, shares, agree⟩ := PathTables.shares_serveAll extras
    exact ⟨s, shared, shares.known, agree⟩

/-- A copy that was refused a path stays behind, and the next extension fills another one. -/
example :
    let path : SymbolPath := ⟨["a"]⟩
    ((History.start PathTables.empty).serveAll PathTables.extend
      [[(path, "x"), (path, "y")], [(path, "y")]]).log.reverse.map (·.2) =
      [.error (.refused (.knownPath path "x")), .ok 2] := rfl

end ChainLint
