import ChainLint.Proofs.Misuse
import ChainLint.Rule.File
/-!
# Which documents of rules are misused

A mapping gives a rule or is skipped with one warning, unless its guards are no
list of anything, or one of them asks for infinitely many arguments. Both count
only in a mapping that passes all checks that come before its guards, and the
second only after guards that are understood (`Rule.Misuses`). Files without
such mappings give the rules of all mappings that describe one, in order, and a
warning for each of the others. The first such mapping ends the reading, so the
rules around it are lost (`rule_documents_answer`).
-/

namespace ChainLint

/-- A value describes a guard. -/
def Datum.IsGuard (d : Datum) : Prop :=
  ∃ key value g, d.core = .map [(key, value)] ∧ Rule.guard key.display value = .ok g

/-- A value asks for infinitely many arguments. -/
def Datum.AsksInfinite (d : Datum) : Prop :=
  ∃ key negative, d.core = .map [(key, .float (.infinity negative))] ∧ key.display = "call_arity"

/-- A warning tells that a rule is skipped, where it stands and why. -/
def Warning.Skips (origin : String) (w : Warning) : Prop :=
  (∃ fields, fields ≠ [] ∧ w = .missingFields origin fields) ∨
    ∃ name reason, w = .skippedRule name origin reason

namespace Rule

/-! ## Guards -/

section
variable {d : Datum} {before ds : List Datum}

theorem guard_infinite_iff {kind : String} {value : Datum} :
    guard kind value = .error (.notWhole .infinite) ↔
      kind = "call_arity" ∧ ∃ negative, value = .float (.infinity negative) := by
  unfold guard
  split
  · split <;> simp
  · split <;> simp
  · rw [← Dump.toWhole_infinite_iff]
    split <;> simp_all
  · split <;> simp
  · dsimp only
    split <;> simp
  · next hk _ _ => simpa using fun h => absurd h hk

theorem readGuard_of_isGuard (name origin : String) (h : d.IsGuard) : ∃ g, readGuard name origin d = .ok g := by
  obtain ⟨key, value, g, hd, hg⟩ := h
  exact ⟨g, by rw [readGuard, hd]; dsimp only; rw [hg]⟩

theorem readGuard_of_asksInfinite (name origin : String) (h : d.AsksInfinite) :
    readGuard name origin d = .error (.misused .infinite) := by
  obtain ⟨key, negative, hd, hk⟩ := h
  have hg : guard key.display (.float (.infinity negative)) = .error (.notWhole .infinite) :=
    guard_infinite_iff.2 ⟨hk, negative, rfl⟩
  rw [readGuard, hd]
  dsimp only
  rw [hg]

theorem readGuard_skipped (name origin : String) (hg : ¬d.IsGuard) (hi : ¬d.AsksInfinite) :
    ∃ reason, readGuard name origin d = .error (skip name origin reason) := by
  unfold readGuard
  split
  · next key value hd =>
    split
    · next g read => exact absurd ⟨key, value, g, hd, read⟩ hg
    · next read =>
      obtain ⟨hk, negative, rfl⟩ := guard_infinite_iff.1 read
      exact absurd ⟨key, negative, hd, hk⟩ hi
    · exact ⟨_, rfl⟩
  · exact ⟨_, rfl⟩

theorem readGuards_of_isGuard (name origin : String) (h : ∀ d ∈ ds, d.IsGuard) :
    ∃ gs, readGuards name origin ds = .ok gs := by
  induction ds with
  | nil => exact ⟨[], rfl⟩
  | cons d rest ih =>
    obtain ⟨hd, hrest⟩ := List.forall_mem_cons.1 h
    obtain ⟨g, hg⟩ := readGuard_of_isGuard name origin hd
    obtain ⟨gs, hgs⟩ := ih hrest
    exact ⟨g :: gs, by rw [readGuards, hg, hgs]; rfl⟩

/-- A fault of a guard counts if all guards before it are understood. -/
theorem readGuards_append {name origin : String} {fault : RuleFault} (hb : ∀ c ∈ before, c.IsGuard)
    (hd : readGuard name origin d = .error fault) (after : List Datum) :
    readGuards name origin (before ++ d :: after) = .error fault := by
  induction before with
  | nil =>
    rw [List.nil_append, readGuards, hd]
    rfl
  | cons c rest ih =>
    obtain ⟨hc, hrest⟩ := List.forall_mem_cons.1 hb
    obtain ⟨g, hg⟩ := readGuard_of_isGuard name origin hc
    rw [List.cons_append, readGuards, hg, ih hrest]
    rfl

/-- All of some values describe guards, or there is a first one that does not. -/
theorem isGuard_or_exists (ds : List Datum) :
    (∀ d ∈ ds, d.IsGuard) ∨ ∃ before d after, ds = before ++ d :: after ∧ (∀ c ∈ before, c.IsGuard) ∧ ¬d.IsGuard := by
  induction ds with
  | nil => exact .inl nofun
  | cons d rest ih =>
    by_cases hd : d.IsGuard
    · rcases ih with all | ⟨before, c, after, rfl, hb, hc⟩
      · exact .inl (List.forall_mem_cons.2 ⟨hd, all⟩)
      · exact .inr ⟨d :: before, c, after, rfl, List.forall_mem_cons.2 ⟨hd, hb⟩, hc⟩
    · exact .inr ⟨[], d, rest, rfl, nofun, hd⟩

end

/-! ## Mappings -/

/-- A mapping that passes all checks that come before its guards. -/
structure Opens (entries : List (Datum × Datum)) : Prop where
  complete : missingFields entries = []
  tagged : ∃ tags, ((Datum.field? "classify" entries).getD .null).core = .map tags
  severity : ∀ d, Datum.field? "severity" entries = some d → d.isTruthy = true → d.display ∈ severities

/-- A mapping that describes a rule. -/
structure Describes (entries : List (Datum × Datum)) : Prop extends Opens entries where
  guards : ∃ items, Datum.fieldItems (Datum.field? "guards" entries) = .ok items ∧ ∀ d ∈ items, d.IsGuard

/-- A mapping that is misused in place of giving a rule or being skipped. -/
inductive Misuses (entries : List (Datum × Datum)) : Datum.Misuse → Prop
  /-- The guards count as true and have no items. -/
  | guards {d : Datum} : Opens entries → Datum.field? "guards" entries = some d → d.isItemless = true →
      Misuses entries .noItems
  /-- After guards that are understood, one asks for infinitely many arguments. -/
  | arity {before after : List Datum} {d : Datum} : Opens entries →
      Datum.fieldItems (Datum.field? "guards" entries) = .ok (before ++ d :: after) →
      (∀ c ∈ before, c.IsGuard) → d.AsksInfinite → Misuses entries .infinite

section
variable {origin : String} {entries : List (Datum × Datum)} {items : List Datum}

theorem readSeverity_known (h : ∀ d, Datum.field? "severity" entries = some d → d.isTruthy = true → d.display ∈ severities) :
    ∃ severity, ∀ name origin, readSeverity name origin entries = .ok severity := by
  unfold readSeverity
  cases hs : Datum.field? "severity" entries with
  | none => exact ⟨none, fun _ _ => rfl⟩
  | some d =>
    cases ht : d.isTruthy with
    | false => exact ⟨none, fun _ _ => by simp [ht]⟩
    | true => exact ⟨some d.display, fun _ _ => by simp [ht, h d hs ht]⟩

theorem readSeverity_unknown (name origin : String) {d : Datum} (hs : Datum.field? "severity" entries = some d)
    (ht : d.isTruthy = true) (hd : d.display ∉ severities) :
    ∃ reason, readSeverity name origin entries = .error (skip name origin reason) := by
  unfold readSeverity
  simp [hs, ht, hd]

/-- The name that a mapping gives its rule. -/
def nameOf (entries : List (Datum × Datum)) : String := ((Datum.field? "name" entries).getD .null).display

/-- A mapping that passes the checks before its guards comes down to them. -/
theorem Opens.ofEntries_eq (h : Opens entries) : ∃ make : List Guard → Rule, ∀ origin,
    ofEntries origin entries = do
      let items ← (Datum.fieldItems (Datum.field? "guards" entries)).mapError RuleFault.misused
      let guards ← readGuards (nameOf entries) origin items
      return make guards := by
  obtain ⟨tags, ht⟩ := h.tagged
  obtain ⟨severity, hs⟩ := readSeverity_known h.severity
  constructor
  intro origin
  unfold ofEntries
  simp only [h.complete, ht, hs]
  cases Datum.fieldItems (Datum.field? "guards" entries) <;> rfl

theorem ofEntries_of_not_opens (h : ¬Opens entries) :
    ∃ w, ofEntries origin entries = .error (.skipped w) ∧ w.Skips origin := by
  unfold ofEntries
  by_cases complete : missingFields entries = []
  · simp only [complete]
    by_cases tagged : ∃ tags, ((Datum.field? "classify" entries).getD .null).core = .map tags
    · -- only the severity is left to be at fault
      obtain ⟨d, hs, htruthy, hd⟩ : ∃ d, Datum.field? "severity" entries = some d ∧ d.isTruthy = true ∧
          d.display ∉ severities := by
        by_contra known
        push Not at known
        exact h ⟨complete, tagged, known⟩
      obtain ⟨tags, ht⟩ := tagged
      obtain ⟨reason, hr⟩ := readSeverity_unknown (nameOf entries) origin hs htruthy hd
      refine ⟨.skippedRule (nameOf entries) origin reason, ?_, .inr ⟨_, _, rfl⟩⟩
      unfold nameOf at hr
      simp only [ht, hr]
      rfl
    · refine ⟨.skippedRule (nameOf entries) origin "'classify' must map tags to summaries.", ?_, .inr ⟨_, _, rfl⟩⟩
      cases hc : ((Datum.field? "classify" entries).getD .null).core with
      | map tags => exact absurd ⟨tags, hc⟩ tagged
      | _ => rfl
  · refine ⟨.missingFields origin (missingFields entries), ?_, .inl ⟨_, complete, rfl⟩⟩
    rw [if_pos (by simpa using complete)]
    rfl

theorem fieldItems_eq_error_iff {field : Option Datum} {m : Datum.Misuse} :
    Datum.fieldItems field = .error m ↔ m = .noItems ∧ ∃ d, field = some d ∧ d.isItemless = true := by
  cases field with
  | none => simp [Datum.fieldItems]
  | some d =>
    cases ht : d.isTruthy <;> cases hi : d.items? <;>
      simp [Datum.fieldItems, Datum.isItemless, ht, hi, @eq_comm _ m]

/-- A mapping that passes the checks before its guards and lists some ends as the reading of these. -/
theorem Opens.of_readGuards (h : Opens entries) (hf : Datum.fieldItems (Datum.field? "guards" entries) = .ok items) :
    (∀ gs, readGuards (nameOf entries) origin items = .ok gs → ∃ rule, ofEntries origin entries = .ok rule) ∧
    ∀ fault, readGuards (nameOf entries) origin items = .error fault → ofEntries origin entries = .error fault := by
  obtain ⟨make, read⟩ := h.ofEntries_eq
  rw [read, hf]
  exact ⟨fun gs hr => ⟨make gs, by rw [Except.mapError]; dsimp only [bind, Except.bind]; rw [hr]; rfl⟩,
    fun fault hr => by rw [Except.mapError]; dsimp only [bind, Except.bind]; rw [hr]⟩

theorem Describes.exists_ofEntries (h : Describes entries) (origin : String) :
    ∃ rule, ofEntries origin entries = .ok rule := by
  obtain ⟨items, hf, all⟩ := h.guards
  obtain ⟨gs, hgs⟩ := readGuards_of_isGuard (nameOf entries) origin all
  exact (h.toOpens.of_readGuards hf).1 gs hgs

theorem Misuses.ofEntries_eq {m : Datum.Misuse} (h : Misuses entries m) :
    ofEntries origin entries = .error (.misused m) := by
  cases h with
  | guards opens hg itemless =>
    obtain ⟨make, read⟩ := opens.ofEntries_eq
    rw [read, fieldItems_eq_error_iff.2 ⟨rfl, _, hg, itemless⟩]
    rfl
  | arity opens hf hb asks =>
    exact (opens.of_readGuards hf).2 _ (readGuards_append hb (readGuard_of_asksInfinite _ _ asks) _)

/-- No mapping that describes a rule is misused. -/
theorem Describes.not_misuses (h : Describes entries) (m : Datum.Misuse) : ¬Misuses entries m := by
  intro hm
  obtain ⟨rule, hr⟩ := h.exists_ofEntries ""
  cases hr.symm.trans hm.ofEntries_eq

/-- The three ways in which the reading of a mapping ends. -/
theorem ofEntries_cases (origin : String) (entries : List (Datum × Datum)) :
    Describes entries ∨ (∃ w, ofEntries origin entries = .error (.skipped w) ∧ w.Skips origin) ∨
      ∃ m, Misuses entries m := by
  by_cases opens : Opens entries
  · cases hf : Datum.fieldItems (Datum.field? "guards" entries) with
    | error m =>
      obtain ⟨rfl, d, hd, itemless⟩ := fieldItems_eq_error_iff.1 hf
      exact .inr (.inr ⟨_, .guards opens hd itemless⟩)
    | ok items =>
      rcases isGuard_or_exists items with all | ⟨before, d, after, rfl, hb, hd⟩
      · exact .inl ⟨opens, items, hf, all⟩
      · by_cases asks : d.AsksInfinite
        · exact .inr (.inr ⟨_, .arity opens hf hb asks⟩)
        · obtain ⟨reason, hr⟩ := readGuard_skipped (nameOf entries) origin hd asks
          exact .inr (.inl ⟨_, (opens.of_readGuards hf).2 _ (readGuards_append hb hr _), .inr ⟨_, _, rfl⟩⟩)
  · exact .inr (.inl (ofEntries_of_not_opens opens))

theorem exists_ofEntries_iff : (∃ rule, ofEntries origin entries = .ok rule) ↔ Describes entries := by
  refine ⟨fun ⟨rule, hr⟩ => ?_, fun h => h.exists_ofEntries origin⟩
  rcases ofEntries_cases origin entries with h | ⟨w, hw, -⟩ | ⟨m, hm⟩
  · exact h
  · cases hr.symm.trans hw
  · cases hr.symm.trans hm.ofEntries_eq

theorem ofEntries_misused_iff {m : Datum.Misuse} :
    ofEntries origin entries = .error (.misused m) ↔ Misuses entries m := by
  refine ⟨fun hr => ?_, Misuses.ofEntries_eq⟩
  rcases ofEntries_cases origin entries with h | ⟨w, hw, -⟩ | ⟨m', hm⟩
  · obtain ⟨rule, hrule⟩ := h.exists_ofEntries origin
    cases hr.symm.trans hrule
  · cases hr.symm.trans hw
  · cases hr.symm.trans hm.ofEntries_eq
    exact hm

end

/-! ## Mappings in order -/

/-- The rule that a mapping at some place describes. -/
def described? (site : String × List (Datum × Datum)) : Option Rule := (ofEntries site.1 site.2).toOption

/-- The warning that a mapping at some place costs. -/
def skipped? (site : String × List (Datum × Datum)) : Option Warning :=
  match ofEntries site.1 site.2 with
  | .error (.skipped w) => some w
  | _ => none

section
variable {site : String × List (Datum × Datum)} {before after rest : List (String × List (Datum × Datum))}

/-- A mapping that is not misused gives its rule or its warning, and reading goes on. -/
theorem ofMappings_cons (h : ∀ m, ¬Misuses site.2 m) :
    ofMappings (site :: rest) = ⟨(skipped? site).toList ++ (ofMappings rest).warnings,
      (ofMappings rest).result.map ((described? site).toList ++ ·)⟩ := by
  obtain ⟨origin, entries⟩ := site
  unfold described? skipped?
  rw [ofMappings]
  rcases ofEntries_cases origin entries with hd | ⟨w, hw, -⟩ | ⟨m, hm⟩
  · obtain ⟨rule, hr⟩ := hd.exists_ofEntries origin
    rw [hr]
    cases hrest : (ofMappings rest).result with
    | ok rules => simp [Told.bind_of_ok hrest, Except.toOption, Except.map]
    | error stop => simp [Told.bind_of_error hrest, Except.map]
  · rw [hw]
    cases hrest : (ofMappings rest).result <;> simp [Told.warn_bind, hrest, Except.toOption, Except.map]
  · exact absurd hm (h m)

/-- Mappings that are not misused give their rules and their warnings, whatever comes after them. -/
theorem ofMappings_append (h : ∀ site ∈ before, ∀ m, ¬Misuses site.2 m)
    (rest : List (String × List (Datum × Datum))) :
    ofMappings (before ++ rest) = ⟨before.filterMap skipped? ++ (ofMappings rest).warnings,
      (ofMappings rest).result.map (before.filterMap described? ++ ·)⟩ := by
  induction before with
  | nil => cases hr : (ofMappings rest).result <;> simp [← hr, Except.map]
  | cons site before ih =>
    obtain ⟨hsite, hbefore⟩ := List.forall_mem_cons.1 h
    rw [List.cons_append, ofMappings_cons hsite, ih hbefore]
    cases hs : skipped? site <;> cases hd : described? site <;>
      cases (ofMappings rest).result <;> simp [hs, hd, Except.map]

/-- A misused mapping ends the reading. -/
theorem ofMappings_misused {m : Datum.Misuse} (h : Misuses site.2 m) :
    ofMappings (site :: rest) = Told.stop (.misuse m) := by
  rw [ofMappings, h.ofEntries_eq]

/-- Mappings in two parts are read one part after the other. -/
theorem ofMappings_parts (first second : List (String × List (Datum × Datum))) :
    ofMappings (first ++ second) = do return (← ofMappings first) ++ (← ofMappings second) := by
  induction first with
  | nil => simp [ofMappings]
  | cons site first ih =>
    rw [List.cons_append, ofMappings, ofMappings]
    split <;> simp [ih, Told.stop_bind]

/-- The mappings of files that may describe rules, in the order of the files. -/
def sites (files : List (String × Content)) : List (String × List (Datum × Datum)) :=
  files.flatMap fun file =>
    match Document.all file.2 with
    | .ok ds => sited file.1 0 ds
    | .error _ => []

theorem ofFiles_eq {files : List (String × Content)} (h : ∀ file ∈ files, ∃ ds, Document.all file.2 = .ok ds) :
    ofFiles files = ofMappings (sites files) := by
  induction files with
  | nil => rfl
  | cons file rest ih =>
    obtain ⟨⟨ds, hds⟩, hrest⟩ := List.forall_mem_cons.1 h
    rw [sites, List.flatMap_cons, hds, ofMappings_parts, ← sites, ← ih hrest, ofFiles, ofFile, hds]

end

/-- A mapping gives a rule if and only if it describes one, and it is misused if and only if it passes
the checks before its guards and then these have no items, or one of them asks for infinitely many
arguments after guards that are understood. In all other cases it costs one warning, which says where it
stands. Mappings of which none is misused give all their rules and all their warnings, in order; otherwise
the first that is ends the reading, after the warnings of those before. Files whose documents can be read
give what their mappings give, in the order of files, documents and items. -/
theorem rule_documents_answer (origin : String) (entries : List (Datum × Datum))
    (before : List (String × List (Datum × Datum))) (files : List (String × Content)) :
    ((∃ rule, ofEntries origin entries = .ok rule) ↔ Describes entries) ∧
    (∀ m, ofEntries origin entries = .error (.misused m) ↔ Misuses entries m) ∧
    (¬Describes entries → (∀ m, ¬Misuses entries m) →
      ∃ w, ofEntries origin entries = .error (.skipped w) ∧ w.Skips origin) ∧
    ((∀ site ∈ before, ∀ m, ¬Misuses site.2 m) →
      ofMappings before = ⟨before.filterMap skipped?, .ok (before.filterMap described?)⟩ ∧
      ∀ site after m, Misuses site.2 m →
        ofMappings (before ++ site :: after) = ⟨before.filterMap skipped?, .error (.misuse m)⟩) ∧
    ((∀ file ∈ files, ∃ ds, Document.all file.2 = .ok ds) →
      ofFiles files = ofMappings (sites files) ∧
      ((∀ site ∈ sites files, ∀ m, ¬Misuses site.2 m) →
        ofFiles files = ⟨(sites files).filterMap skipped?, .ok ((sites files).filterMap described?)⟩)) := by
  have answered : ∀ before : List (String × List (Datum × Datum)),
      (∀ site ∈ before, ∀ m, ¬Misuses site.2 m) →
      ofMappings before = ⟨before.filterMap skipped?, .ok (before.filterMap described?)⟩ := by
    intro before answer
    have read := ofMappings_append answer []
    rw [List.append_nil] at read
    simpa [ofMappings, Except.map] using read
  refine ⟨exists_ofEntries_iff, fun m => ofEntries_misused_iff, fun hd hm => ?_,
    fun answer => ⟨answered before answer, fun site after m hm => ?_⟩,
    fun parsed => ⟨ofFiles_eq parsed, fun answer => ?_⟩⟩
  · rcases ofEntries_cases origin entries with h | h | ⟨m, h⟩
    · exact absurd h hd
    · exact h
    · exact absurd h (hm m)
  · rw [ofMappings_append answer, ofMappings_misused hm]
    simp [Told.stop, Except.map]
  · rw [ofFiles_eq parsed, answered _ answer]

/-! ## A rule next to mappings that give none -/

/-- A rule for blocks with guards of some kind. -/
def guardedEntries (guards : Datum) : List (Datum × Datum) :=
  [(.text "name", .text "test"), (.text "category", .text "style"), (.text "node_kinds", .text "Block"),
   (.text "guards", guards), (.text "classify", .map [(.text "zero_fill", .text "zeros")])]

theorem opens_guardedEntries (guards : Datum) : Opens (guardedEntries guards) :=
  ⟨rfl, ⟨_, rfl⟩, nofun⟩

theorem describes_guardedEntries : Describes (guardedEntries (.list [])) :=
  ⟨opens_guardedEntries _, [], rfl, nofun⟩

theorem guardedEntries_misused :
    Misuses (guardedEntries (.int 5)) .noItems ∧
    Misuses (guardedEntries (.list [.map [(.text "call_arity", .float (.infinity false))]])) .infinite := by
  constructor
  · exact .guards (opens_guardedEntries _) rfl rfl
  · exact @Misuses.arity _ [] _ _ (opens_guardedEntries _) rfl nofun ⟨_, false, rfl, rfl⟩

theorem not_misuses_nil (m : Datum.Misuse) : ¬Misuses [] m := by
  have incomplete : ¬Opens [] := fun h => absurd h.complete (by decide)
  intro h
  cases h with
  | guards opens => exact incomplete opens
  | arity opens => exact incomplete opens

/-- A mapping without fields costs a warning and leaves the rule that stands after it; what is misused
after them ends the reading. -/
theorem bareMapping_skipped :
    ∃ rule, ofEntries "a" (guardedEntries (.list [])) = .ok rule ∧
      ofMappings [("a", []), ("a", guardedEntries (.list []))] = ⟨[.missingFields "a" requiredFields], .ok [rule]⟩ ∧
      ofMappings [("a", []), ("a", guardedEntries (.list [])), ("a", guardedEntries (.int 5))] =
        ⟨[.missingFields "a" requiredFields], .error (.misuse .noItems)⟩ ∧
      ofFiles [("a.yaml", .ok "[{}]".toUTF8)] = ⟨[.missingFields "a.yaml#doc1" requiredFields], .ok []⟩ := by
  obtain ⟨one, -, -, order, files⟩ := rule_documents_answer "a" (guardedEntries (.list []))
    [("a", []), ("a", guardedEntries (.list []))] [("a.yaml", .ok "[{}]".toUTF8)]
  obtain ⟨rule, hr⟩ := one.2 describes_guardedEntries
  have answer : ∀ site ∈ [("a", []), ("a", guardedEntries (.list []))], ∀ m, ¬Misuses site.2 m :=
    List.forall_mem_cons.2 ⟨not_misuses_nil, List.forall_mem_singleton.2 describes_guardedEntries.not_misuses⟩
  have bare : ∀ origin, ofEntries origin [] = .error (.skipped (.missingFields origin requiredFields)) := fun _ => rfl
  have parsed : Document.all (.ok "[{}]".toUTF8) = .ok [.list [.map []]] := by cbv
  have found : sites [("a.yaml", .ok "[{}]".toUTF8)] = [("a.yaml#doc1", [])] := by
    simp only [sites, List.flatMap_cons, parsed]
    rfl
  obtain ⟨all, stop⟩ := order answer
  refine ⟨rule, hr, ?_, ?_, ?_⟩
  · rw [all]
    simp [skipped?, described?, bare, hr, Except.toOption]
  · refine (stop ("a", guardedEntries (.int 5)) [] .noItems guardedEntries_misused.1).trans ?_
    simp [skipped?, bare, hr]
  · obtain ⟨-, given⟩ := files (List.forall_mem_singleton.2 ⟨_, parsed⟩)
    rw [found] at given
    exact given (List.forall_mem_singleton.2 not_misuses_nil)

/-- A number in place of the guards, and an infinite number of arguments, end the reading: a rule that
stands after such a mapping is lost. -/
theorem guardedEntries_lost :
    (∀ origin, ofEntries origin (guardedEntries (.int 5)) = .error (.misused .noItems)) ∧
    (∀ origin, ofEntries origin
      (guardedEntries (.list [.map [(.text "call_arity", .float (.infinity false))]])) = .error (.misused .infinite)) ∧
    (∃ rule, ofMappings (sited "a.yaml" 0 [.list [.map (guardedEntries (.list []))]]) = ⟨[], .ok [rule]⟩) ∧
    ofMappings (sited "a.yaml" 0 [.list [.map (guardedEntries (.int 5)), .map (guardedEntries (.list []))]]) =
      ⟨[], .error (.misuse .noItems)⟩ := by
  refine ⟨fun origin => guardedEntries_misused.1.ofEntries_eq, fun origin => guardedEntries_misused.2.ofEntries_eq,
    ?_, ?_⟩
  · obtain ⟨rule, hr⟩ := describes_guardedEntries.exists_ofEntries "a.yaml#doc1"
    refine ⟨rule, ?_⟩
    show ofMappings [("a.yaml#doc1", guardedEntries (.list []))] = _
    rw [ofMappings, hr]
    rfl
  · exact ofMappings_misused guardedEntries_misused.1

end Rule

end ChainLint
