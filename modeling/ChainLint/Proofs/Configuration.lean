import ChainLint.Config
import ChainLint.Proofs.RuleDocuments
/-!
# What a configuration comes to

`configurations_answer`: a configuration is taken over whatever it says, unless
its paths are a value that has no items. Each element of a list of paths gives
a registration or costs one warning that names its place (`pathEntry_cases`),
and the rest of the configuration is what it is without paths.
-/

namespace ChainLint

/-- The warning tells which element of the paths is skipped. -/
def Warning.SkipsPath (config : String) (index : Nat) (w : Warning) : Prop :=
  ∃ reason, w.body = s!"Skipping paths[{index}] in {config}: " ++ reason

/-- One passes mappings when going through the value. A mapping has none among its keys, and a text none
among its characters. -/
def Datum.ListsMapping (d : Datum) : Prop :=
  ∃ items entries, d.items? = some items ∧ ∃ item ∈ items, item.core = .map entries

theorem Datum.not_listsMapping_text (s : String) : ¬(Datum.text s).ListsMapping := by
  rintro ⟨_, entries, ⟨⟩, item, hm, mapping⟩
  obtain ⟨c, -, rfl⟩ := List.mem_map.1 hm
  cases mapping

theorem Datum.not_listsMapping_map {entries : List (Datum × Datum)}
    (h : ∀ e ∈ entries, ∀ entries', e.1.core ≠ .map entries') : ¬(Datum.map entries).ListsMapping := by
  rintro ⟨_, entries', ⟨⟩, item, hm, mapping⟩
  obtain ⟨e, he, rfl⟩ := List.mem_map.1 hm
  exact h e he entries' mapping

namespace Config

/-! ## Elements of the paths -/

/-- An element asks for a registration: it is a mapping with a path and a tag, and the path can be split. -/
inductive Asks (d : Datum) : SymbolPath × String → Prop
  | intro {entries : List (Datum × Datum)} {path tag : Datum} {segments : List String}
      (mapping : d.core = .map entries)
      (pathGiven : Datum.field? "path" entries = some path) (pathSays : path.isTruthy = true)
      (tagGiven : Datum.field? "tag" entries = some tag) (tagSays : tag.isTruthy = true)
      (split : Dump.splitPath path = .ok segments) : Asks d (⟨segments⟩, tag.display)

section
variable {config : String} {index : Nat} {d : Datum} {e : SymbolPath × String}

theorem pathFields?_eq_some_iff {path tag : Datum} : pathFields? d = some (path, tag) ↔
    ∃ entries, d.core = .map entries ∧ Datum.field? "path" entries = some path ∧ path.isTruthy = true ∧
      Datum.field? "tag" entries = some tag ∧ tag.isTruthy = true := by
  unfold pathFields?
  cases hd : d.core with
  | map entries =>
    simp only [Option.bind_eq_bind, Option.bind_eq_some_iff, Datum.map.injEq, exists_eq_left']
    constructor
    · rintro ⟨p, hp, t, ht, h⟩
      split at h
      · next said =>
        cases h
        obtain ⟨saysPath, saysTag⟩ := Bool.and_eq_true_iff.1 said
        exact ⟨hp, saysPath, ht, saysTag⟩
      · cases h
    · rintro ⟨hp, saysPath, ht, saysTag⟩
      exact ⟨path, hp, tag, ht, by rw [saysPath, saysTag]; rfl⟩
  | _ => simp

theorem pathEntry_of_asks (h : Asks d e) : pathEntry config index d = .ok e := by
  cases h with
  | intro mapping pathGiven pathSays tagGiven tagSays split =>
    rw [pathEntry, pathFields?_eq_some_iff.2 ⟨_, mapping, pathGiven, pathSays, tagGiven, tagSays⟩]
    simp only [split]

theorem skipsPath_incomplete (index : Nat) (config : String) :
    (Warning.incompletePath index config).SkipsPath config index := by
  refine ⟨"expected 'path' and 'tag'.", ?_⟩
  unfold Warning.body
  simp only [toString, String.append_assoc]
  rfl

theorem skipsPath_refused (index : Nat) (config : String) (fault : DumpFault) :
    (Warning.refusedPath index config fault).SkipsPath config index := by
  refine ⟨fault.message, ?_⟩
  unfold Warning.body
  with_reducible rfl

/-- An element asks for a registration, or it is skipped with a warning. -/
theorem pathEntry_cases (config : String) (index : Nat) (d : Datum) :
    (∃ e, pathEntry config index d = .ok e ∧ Asks d e) ∨
      ∃ w, pathEntry config index d = .error w ∧ w.SkipsPath config index ∧ ∀ e, ¬Asks d e := by
  have none : ∀ {w}, pathEntry config index d = .error w → ∀ e, ¬Asks d e := by
    intro w hw e asks
    cases hw.symm.trans (pathEntry_of_asks asks)
  cases hf : pathFields? d with
  | none =>
    have hw : pathEntry config index d = .error (.incompletePath index config) := by rw [pathEntry, hf]
    exact .inr ⟨_, hw, skipsPath_incomplete index config, none hw⟩
  | some fields =>
    obtain ⟨path, tag⟩ := fields
    cases hs : Dump.splitPath path with
    | ok segments =>
      obtain ⟨entries, mapping, pathGiven, pathSays, tagGiven, tagSays⟩ := pathFields?_eq_some_iff.1 hf
      have asks : Asks d (⟨segments⟩, tag.display) := .intro mapping pathGiven pathSays tagGiven tagSays hs
      exact .inl ⟨_, pathEntry_of_asks asks, asks⟩
    | error fault =>
      have hw : pathEntry config index d = .error (.refusedPath index config fault) := by
        rw [pathEntry, hf]
        simp only [hs]
      exact .inr ⟨_, hw, skipsPath_refused index config fault, none hw⟩

end

/-- The registration that an element at its place asks for. -/
def taken? (config : String) (p : Datum × Nat) : Option (SymbolPath × String) :=
  (pathEntry config p.2 p.1).toOption

/-- The warning that an element at its place costs. -/
def skipped? (config : String) (p : Datum × Nat) : Option Warning :=
  match pathEntry config p.2 p.1 with
  | .ok _ => none
  | .error w => some w

theorem pathEntries_eq (config : String) (index : Nat) (ds : List Datum) : pathEntries config index ds =
    ⟨(ds.zipIdx index).filterMap (skipped? config), .ok ((ds.zipIdx index).filterMap (taken? config))⟩ := by
  induction ds generalizing index with
  | nil => rfl
  | cons d rest ih =>
    rw [pathEntries, List.zipIdx_cons, List.filterMap_cons, List.filterMap_cons, skipped?, taken?]
    cases he : pathEntry config index d with
    | ok e =>
      simp only [ih, Told.bind_pure_eq]
      rfl
    | error w =>
      simp only [ih]
      rfl

/-! ## The whole configuration -/

theorem items?_of_list {v : Datum} {ds : List Datum} (h : v.core = .list ds) : v.items? = some ds := by
  cases v with
  | list items =>
    cases h
    rfl
  | again up c =>
    cases (h : c = .list ds)
    rfl
  | _ => cases h

theorem fieldItems_list {v : Datum} {ds : List Datum} (h : v.core = .list ds) :
    Datum.fieldItems (some v) = .ok ds := by
  have truth : v.isTruthy = !ds.isEmpty := by
    cases v with
    | list items =>
      cases h
      rfl
    | again up c =>
      cases (h : c = .list ds)
      rfl
    | _ => cases h
  rw [Datum.fieldItems, items?_of_list h, truth]
  cases ds <;> rfl

/-- What is configured apart from the paths. -/
def apart (directory path : String) (entries : List (Datum × Datum)) : Config where
  ruleFiles := (texts "rules" entries).map (FilePath.join (FilePath.parent (FilePath.absolute directory path)))
  disabled := texts "disable" entries

section
variable {directory path : String} {entries : List (Datum × Datum)} {ds : List Datum}

/-- The elements of the paths are gone through, and all else is taken over. -/
theorem ofEntries_items (h : Datum.fieldItems (Datum.field? "paths" entries) = .ok ds) :
    ofEntries directory path entries = ⟨ds.zipIdx.filterMap (skipped? path),
      .ok { apart directory path entries with paths := ds.zipIdx.filterMap (taken? path) }⟩ := by
  rw [ofEntries, h]
  simp only [pathEntries_eq]
  exact Told.bind_pure_eq _ _

theorem ofEntries_stop_iff {s : Stop} : (ofEntries directory path entries).result = .error s ↔
    s = .misuse .noItems ∧ ∃ v, Datum.field? "paths" entries = some v ∧ v.isItemless = true := by
  cases h : Datum.fieldItems (Datum.field? "paths" entries) with
  | ok ds =>
    have none : ¬∃ v, Datum.field? "paths" entries = some v ∧ v.isItemless = true := by
      intro itemless
      cases h.symm.trans (Rule.fieldItems_eq_error_iff.2 ⟨rfl, itemless⟩)
    simp [ofEntries_items h, none]
  | error m =>
    obtain ⟨rfl, itemless⟩ := Rule.fieldItems_eq_error_iff.1 h
    rw [ofEntries, h]
    simp only [itemless, and_true]
    constructor
    · rintro ⟨⟩
      rfl
    · rintro rfl
      rfl

/-- Values that no mapping is among ask for no registration. -/
theorem taken_of_no_mapping (config : String) {ds : List Datum} (index : Nat)
    (h : ∀ d ∈ ds, ∀ entries, d.core ≠ .map entries) : (ds.zipIdx index).filterMap (taken? config) = [] := by
  rw [List.filterMap_eq_nil_iff]
  intro p hp
  obtain ⟨e, he, asks⟩ | ⟨w, hw, -⟩ := pathEntry_cases config p.2 p.1
  · cases asks with
    | intro mapping => exact absurd mapping (h p.1 (List.fst_mem_of_mem_zipIdx hp) _)
  · rw [taken?, hw]
    rfl

/-- A value that has items is gone through or counts as false. -/
theorem exists_fieldItems {v : Datum} (h : v.isItemless = false) :
    ∃ ds, Datum.fieldItems (some v) = .ok ds ∧ ∀ d ∈ ds, ∃ items, v.items? = some items ∧ d ∈ items := by
  cases hf : Datum.fieldItems (some v) with
  | error m =>
    obtain ⟨-, d, given, itemless⟩ := Rule.fieldItems_eq_error_iff.1 hf
    cases given
    rw [h] at itemless
    cases itemless
  | ok ds =>
    refine ⟨ds, rfl, fun d hd => ?_⟩
    rw [Datum.fieldItems] at hf
    split at hf
    · cases hi : v.items? with
      | none => simp [hi] at hf
      | some items =>
        simp only [hi, Except.ok.injEq] at hf
        subst hf
        exact ⟨items, rfl, hd⟩
    · cases hf
      cases hd

/-- Paths that list no mapping ask for no registration. -/
theorem ofEntries_no_mapping
    (h : ∀ v, Datum.field? "paths" entries = some v → v.isItemless = false ∧ ¬v.ListsMapping) :
    ∃ warnings, ofEntries directory path entries = ⟨warnings, .ok (apart directory path entries)⟩ := by
  obtain ⟨ds, hf, none⟩ : ∃ ds, Datum.fieldItems (Datum.field? "paths" entries) = .ok ds ∧
      ∀ d ∈ ds, ∀ entries, d.core ≠ .map entries := by
    cases hp : Datum.field? "paths" entries with
    | none => exact ⟨[], rfl, nofun⟩
    | some v =>
      obtain ⟨itemless, unmapped⟩ := h v hp
      obtain ⟨ds, hf, listed⟩ := exists_fieldItems itemless
      refine ⟨ds, hf, fun d hd es mapping => unmapped ?_⟩
      obtain ⟨items, hi, hm⟩ := listed d hd
      exact ⟨items, es, hi, d, hm, mapping⟩
  rw [ofEntries_items hf, taken_of_no_mapping path 0 none]
  exact ⟨_, rfl⟩

theorem ofEntries_without {others : List (Datum × Datum)} (absent : Datum.field? "paths" others = none)
    (same : ∀ key ∈ ["rules", "disable"], Datum.field? key others = Datum.field? key entries) :
    ofEntries directory path others = ⟨[], .ok (apart directory path entries)⟩ := by
  have kept : apart directory path others = apart directory path entries := by
    simp only [apart, texts, same "rules" (by decide), same "disable" (by decide)]
  have none : Datum.fieldItems (Datum.field? "paths" others) = .ok [] := by rw [absent, Datum.fieldItems]
  rw [ofEntries_items none, kept]
  rfl

theorem ofFile_of_mapping {content : Content} {doc : Datum} (read : Document.single content = .ok doc)
    (mapping : doc.core = .map entries) : ofFile directory path content = ofEntries directory path entries := by
  simp only [ofFile, read, mapping]

theorem ofFile_of_other {content : Content} {doc : Datum} (read : Document.single content = .ok doc)
    (other : ∀ entries, doc.core ≠ .map entries) : (ofFile directory path content).result = .ok empty := by
  simp only [ofFile, read]
  cases hd : doc.core with
  | map entries => exact absurd hd (other entries)
  | _ => rfl

end

/-- A configuration stops the reading if and only if its paths are a value that counts as true and has no
items. A list of paths is gone through in order, and each element gives the one registration that it asks
for or, if it asks for none, costs one warning that names its place. Paths of another kind give no
registration, since one passes no mapping when going through them. All else is taken over as it is where
there are no paths. What is no mapping configures nothing. -/
theorem configurations_answer (directory path : String) (entries : List (Datum × Datum)) :
    let told := ofEntries directory path entries
    let rest := apart directory path entries
    let paths := Datum.field? "paths" entries
    (∀ s, told.result = .error s ↔ s = .misuse .noItems ∧ ∃ v, paths = some v ∧ v.isItemless = true) ∧
    (∀ v ds, paths = some v → v.core = .list ds →
      told = ⟨ds.zipIdx.filterMap (skipped? path), .ok { rest with paths := ds.zipIdx.filterMap (taken? path) }⟩ ∧
      ∀ p ∈ ds.zipIdx,
        (∃ e, taken? path p = some e ∧ skipped? path p = none ∧ Asks p.1 e) ∨
        ∃ w, skipped? path p = some w ∧ taken? path p = none ∧ w.SkipsPath path p.2 ∧ ∀ e, ¬Asks p.1 e) ∧
    ((∀ v, paths = some v → v.isItemless = false ∧ ¬v.ListsMapping) → ∃ warnings, told = ⟨warnings, .ok rest⟩) ∧
    (∀ others, Datum.field? "paths" others = none →
      (∀ key ∈ ["rules", "disable"], Datum.field? key others = Datum.field? key entries) →
      ofEntries directory path others = ⟨[], .ok rest⟩) ∧
    ∀ content doc, Document.single content = .ok doc →
      (doc.core = .map entries → ofFile directory path content = told) ∧
      ((∀ entries, doc.core ≠ .map entries) → (ofFile directory path content).result = .ok empty) := by
  intro told rest paths
  refine ⟨fun s => ofEntries_stop_iff, fun v ds given listed => ⟨?_, fun p _ => ?_⟩, ofEntries_no_mapping,
    fun others => ofEntries_without, fun content doc read => ⟨ofFile_of_mapping read, ofFile_of_other read⟩⟩
  · have items : Datum.fieldItems (Datum.field? "paths" entries) = .ok ds := by
      rw [show Datum.field? "paths" entries = some v from given, fieldItems_list listed]
    exact ofEntries_items items
  · obtain ⟨e, he, asks⟩ | ⟨w, hw, skips, none⟩ := pathEntry_cases path p.2 p.1
    · exact .inl ⟨e, by rw [taken?, he]; rfl, by rw [skipped?, he], asks⟩
    · exact .inr ⟨w, by rw [skipped?, hw], by rw [taken?, hw]; rfl, skips, none⟩

/-! ## Odd paths -/

/-- Elements of several kinds, of which only the second one asks for a registration. -/
def mixedPaths : List Datum :=
  [.int 5, .map [(.text "path", .text "a::b"), (.text "tag", .text "zero_fill")],
    .map [(.text "path", .text ""), (.text "tag", .text "zero_fill")],
    .map [(.text "path", .text "a::"), (.text "tag", .text "zero_fill")]]

/-- What a configuration says apart from its paths. -/
def plainEntries : List (Datum × Datum) :=
  [(.text "rules", .text "extra.yaml"), (.text "disable", .list [.text "invalid_ref"])]

/-- A configuration with these paths. -/
def withPaths (paths : Datum) : List (Datum × Datum) := (.text "paths", paths) :: plainEntries

/-- Values that list no mapping: a text, and an element that stands outside a list. -/
def loosePaths : List Datum := [.text "no", .map [(.text "path", .text "a::b"), (.text "tag", .text "zero_fill")]]

theorem loosePaths_unmapped : ∀ v ∈ loosePaths, v.isItemless = false ∧ ¬v.ListsMapping := by
  refine List.forall_mem_cons.2 ⟨⟨rfl, Datum.not_listsMapping_text _⟩, List.forall_mem_singleton.2 ⟨rfl, ?_⟩⟩
  refine Datum.not_listsMapping_map ?_
  simp [Datum.core]

theorem mixedPaths_answer :
    ofEntries "/d" "g" (withPaths (.list mixedPaths)) = ⟨[.incompletePath 0 "g", .incompletePath 2 "g",
        .refusedPath 3 "g" (.invalidPath (.text "a::"))],
      .ok { apart "/d" "g" plainEntries with paths := [(⟨["a", "b"]⟩, "zero_fill")] }⟩ ∧
    (∀ v ∈ loosePaths, (v.isItemless = false ∧ ¬v.ListsMapping) ∧
      ∃ warnings, ofEntries "/d" "g" (withPaths v) = ⟨warnings, .ok (apart "/d" "g" plainEntries)⟩) ∧
    ofEntries "/d" "g" plainEntries = ⟨[], .ok (apart "/d" "g" plainEntries)⟩ ∧
    ofFile "/d" "g" (.ok "{}".toUTF8) = ofEntries "/d" "g" [] ∧
    (ofFile "/d" "g" (.ok "[]".toUTF8)).result = .ok empty := by
  obtain ⟨-, listed, -, without, -⟩ := configurations_answer "/d" "g" (withPaths (.list mixedPaths))
  obtain ⟨-, -, -, -, file⟩ := configurations_answer "/d" "g" []
  refine ⟨(listed _ _ rfl rfl).1.trans rfl, fun v hv => ?_, without _ rfl fun key hk => ?_, ?_, ?_⟩
  · have unmapped := loosePaths_unmapped v hv
    obtain ⟨-, -, loose, -, -⟩ := configurations_answer "/d" "g" (withPaths v)
    refine ⟨unmapped, loose ?_⟩
    rintro _ ⟨⟩
    exact unmapped
  · rcases List.mem_cons.1 hk with rfl | hk
    · rfl
    · cases List.mem_singleton.1 hk
      rfl
  · exact (file (.ok "{}".toUTF8) (.map []) (by cbv)).1 rfl
  · refine (file (.ok "[]".toUTF8) (.list []) (by cbv)).2 ?_
    rintro entries ⟨⟩

/-- A number in place of the paths ends the run, and with it what the rest of the configuration says. -/
theorem numberedPaths_stop :
    ofEntries "/d" "g" (withPaths (.int 5)) = Told.stop (.misuse .noItems) ∧
    ofEntries "/d" "g" plainEntries = ⟨[], .ok (apart "/d" "g" plainEntries)⟩ ∧
    ∀ content, Document.single content = .ok (.map (withPaths (.int 5))) →
      ofFile "/d" "g" content = Told.stop (.misuse .noItems) := by
  have stops : ofEntries "/d" "g" (withPaths (.int 5)) = Told.stop (.misuse .noItems) := rfl
  refine ⟨stops, ofEntries_without rfl fun _ _ => rfl, fun content read => ?_⟩
  rw [ofFile_of_mapping read rfl, stops]

end Config

end ChainLint
