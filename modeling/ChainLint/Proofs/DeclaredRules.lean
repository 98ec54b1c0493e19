import ChainLint.Proofs.GuardChain
import ChainLint.Proofs.InvalidRef
import Mathlib.Data.List.Induction
import Mathlib.Data.List.Nodup
/-!
# What a rule from a document can report

`declared_reports`: a rule from a document gives a finding at a node if and only
if all its guards pass, one of them resolves the callee, and the summaries of
the document have the tag of what the callee denotes. The finding is
`reportOf`: its summary is the last one under that tag, and what it tells of the
callee and of the shape hangs on the kinds of the guards that the document lists.
So a document that never asks to resolve the callee describes a rule that finds
nothing.
-/

namespace ChainLint

/-! ## Documents of rules -/

/-- The kind of guard that a document value describes. -/
def Datum.guardKind? (d : Datum) : Option String :=
  match d.core with
  | .map [(key, _)] => some key.display
  | _ => none

/-- The kinds of guards that a document lists, in order. -/
def listedKinds (entries : List (Datum × Datum)) : List String :=
  match Datum.fieldItems (Datum.field? "guards" entries) with
  | .ok items => items.filterMap Datum.guardKind?
  | .error _ => []

/-- The summaries of a document with their tags. -/
def listedTags (entries : List (Datum × Datum)) : List (Datum × Datum) :=
  match ((Datum.field? "classify" entries).getD .null).core with
  | .map tags => tags
  | _ => []

/-- The last summary whose tag reads like this. -/
def IsLastUnder (tags : List (Datum × Datum)) (tag summary : String) : Prop :=
  ∃ before key value after, tags = before ++ (key, value) :: after ∧ key.display = tag ∧
    value.display = summary ∧ ∀ p ∈ after, p.1.display ≠ tag

theorem kind_of_guard {kind : String} {value : Datum} {g : Guard} (h : Rule.guard kind value = .ok g) :
    g.kind? = some kind := by
  unfold Rule.guard at h
  split at h
  · split at h <;> cases h
    rfl
  · split at h <;> cases h
    rfl
  · split at h <;> cases h
    rfl
  · split at h <;> cases h
    rfl
  · dsimp only at h
    split at h <;> cases h
    rfl
  · cases h

theorem kind_of_readGuard {name origin : String} {d : Datum} {g : Guard}
    (h : Rule.readGuard name origin d = .ok g) : d.guardKind? = g.kind? := by
  unfold Rule.readGuard at h
  split at h
  · next key value hd =>
    split at h
    · next hg =>
      cases h
      simp only [Datum.guardKind?, hd, kind_of_guard hg]
    · cases h
    · cases h
  · cases h

theorem kinds_of_readGuards {name origin : String} {ds : List Datum} {gs : List Guard}
    (h : Rule.readGuards name origin ds = .ok gs) : ds.filterMap Datum.guardKind? = kindsOf gs := by
  induction ds generalizing gs with
  | nil =>
    cases h
    rfl
  | cons d rest ih =>
    obtain ⟨g, hg, h⟩ := exists_of_bind_eq_ok h
    obtain ⟨later, hl, h⟩ := exists_of_bind_eq_ok h
    cases h
    rw [List.filterMap_cons, kind_of_readGuard hg, ih hl, kindsOf, kindsOf, List.filterMap_cons]

/-! ## The last entry under a key -/

theorem Table.get?_ofList_eq_some_iff {κ α : Type} [DecidableEq κ] {pairs : List (κ × α)} {k : κ} {v : α} :
    (ofList pairs).get? k = some v ↔
      ∃ before after, pairs = before ++ (k, v) :: after ∧ ∀ p ∈ after, p.1 ≠ k := by
  have put : ∀ (l : List (κ × α)) (e : κ × α),
      (ofList (l ++ [e])).get? k = if e.1 = k then some e.2 else (ofList l).get? k := by
    intro l e
    rw [ofList, List.foldl_append]
    exact get?_insert _ _ _ _
  constructor
  · intro h
    induction pairs using List.reverseRecOn with
    | nil => cases h
    | append_singleton l e ih =>
      rw [put] at h
      split at h
      · next hk =>
        cases h
        exact ⟨l, [], by rw [← hk], nofun⟩
      · next hk =>
        obtain ⟨before, after, rfl, ha⟩ := ih h
        refine ⟨before, after ++ [e], by simp, ?_⟩
        intro p hp
        rcases List.mem_append.1 hp with hp | hp
        · exact ha p hp
        · rw [List.mem_singleton.1 hp]
          exact hk
  · rintro ⟨before, after, rfl, ha⟩
    induction after using List.reverseRecOn with
    | nil => rw [put, if_pos rfl]
    | append_singleton l e ih =>
      rw [← List.cons_append, ← List.append_assoc, put, if_neg (ha e (by simp))]
      exact ih fun p hp => ha p (List.mem_append_left _ hp)

theorem summaries_get?_iff {tags : List (Datum × Datum)} {tag summary : String} :
    (Rule.summaries tags).get? tag = some summary ↔ IsLastUnder tags tag summary := by
  rw [Rule.summaries, Table.get?_ofList_eq_some_iff]
  constructor
  · rintro ⟨before, after, h, ha⟩
    obtain ⟨tags₁, rest, rfl, -, h⟩ := List.map_eq_append_iff.1 h
    obtain ⟨⟨key, value⟩, tags₂, rfl, hp, rfl⟩ := List.map_eq_cons_iff.1 h
    cases hp
    refine ⟨tags₁, key, value, tags₂, rfl, rfl, rfl, fun p hp => ?_⟩
    exact ha _ (List.mem_map_of_mem hp)
  · rintro ⟨before, key, value, after, rfl, rfl, rfl, ha⟩
    refine ⟨before.map _, after.map _, List.map_append, ?_⟩
    intro p hp
    obtain ⟨q, hq, rfl⟩ := List.mem_map.1 hp
    exact ha q hq

/-- There is a last summary under a tag if and only if there is one at all. -/
theorem exists_isLastUnder_iff {tags : List (Datum × Datum)} {tag : String} :
    (∃ summary, IsLastUnder tags tag summary) ↔ ∃ p ∈ tags, p.1.display = tag := by
  constructor
  · rintro ⟨summary, before, key, value, after, rfl, hk, -, -⟩
    exact ⟨(key, value), by simp, hk⟩
  · rintro ⟨p, hp, hk⟩
    induction tags using List.reverseRecOn with
    | nil => cases hp
    | append_singleton tags t ih =>
      by_cases ht : t.1.display = tag
      · exact ⟨t.2.display, tags, t.1, t.2, [], rfl, ht, rfl, nofun⟩
      · -- the last entry has another tag, so the one looked for comes before it
        have earlier : p ∈ tags := by
          rcases List.mem_append.1 hp with hp | hp
          · exact hp
          · rw [List.mem_singleton.1 hp] at hk
            exact absurd hk ht
        obtain ⟨summary, before, key, value, after, rfl, hkey, hs, later⟩ := ih earlier
        refine ⟨summary, before, key, value, after ++ [t], by simp, hkey, hs, ?_⟩
        intro q hq
        rcases List.mem_append.1 hq with hq | hq
        · exact later q hq
        · rw [List.mem_singleton.1 hq]
          exact ht

/-! ## What is reported -/

/-- The finding of a rule whose document lists guards of these kinds, at a node whose callee has an
identity and where a shape was asked for, if any. -/
def Rule.reportOf (r : Rule) (kinds : List String) (e : Expr) (u : CodeUnit) (path : SymbolPath)
    (shape : Option Shape) (summary : String) : Diagnosis where
  rule := r.name
  category := r.category
  severity := if r.severity = "" then "warning" else r.severity
  summary
  help := r.help
  location := e.location u
  unit := some u.name
  internal := false
  extras := [("callee", .text path.text)] ++
    (if "callee_is_path" ∈ kinds then optionalText "callee_text" (e.callee.bind (·.path)) else []) ++
    optionalText "shape" (shape.map Shape.name) ++ optionalText "snippet" e.text

section
variable {r : Rule} {gs : List Guard} {kinds : List String} {e : Expr} {ctx : Context} {b b' : Bindings}

theorem name_ne_empty (s : Shape) : s.name ≠ "" := by
  cases s <;> decide

theorem diagnose_foundBy {path : SymbolPath} {tag : Option String} (hr : "resolves" ∈ kinds)
    (hs : ctx.symbolAt e = some (path, tag)) (summary : String) :
    r.diagnose e ctx.unit (foundBy kinds e ctx) summary =
      r.reportOf kinds e ctx.unit path (foundBy kinds e ctx).shape summary := by
  have symbol : (foundBy kinds e ctx).symbol = some (path, tag) := by
    rw [← hs]
    exact if_pos hr
  have callee : optionalText "callee_text" ((foundBy kinds e ctx).callee.bind (·.path)) =
      if "callee_is_path" ∈ kinds then optionalText "callee_text" (e.callee.bind (·.path)) else [] := by
    by_cases h : "callee_is_path" ∈ kinds
    · simp only [foundBy, if_pos h]
    · simp only [foundBy, if_neg h]
      rfl
  have shape : (foundBy kinds e ctx).shape.toList.map (fun s => ("shape", Datum.text s.name)) =
      optionalText "shape" ((foundBy kinds e ctx).shape.map Shape.name) := by
    cases (foundBy kinds e ctx).shape with
    | none => rfl
    | some s => simp [optionalText, name_ne_empty s]
  simp only [Rule.diagnose, Rule.extras, Rule.reportOf, filterMap_text, symbol, callee, shape]
  rfl

/-! ## Shapes asked for -/

theorem mem_kindsOf_iff {kind : String} : kind ∈ kindsOf gs ↔ ∃ g ∈ gs, g.kind? = some kind :=
  List.mem_filterMap

theorem shape_asked : "result_shape" ∈ kindsOf gs ↔ ∃ s, Guard.resultShape s ∈ gs := by
  rw [mem_kindsOf_iff]
  constructor
  · rintro ⟨g, hg, hk⟩
    cases g with
    | resultShape s => exact ⟨s, hg⟩
    | _ => simp [Guard.kind?] at hk
  · rintro ⟨s, hs⟩
    exact ⟨_, hs, rfl⟩

theorem Passes.check_of_mem (h : Passes e ctx b gs b') {g : Guard} (hg : g ∈ gs) :
    ∃ before after, g.check e ctx before = .ok (.passed after) := by
  induction h with
  | nil => cases hg
  | cons hc _ ih =>
    rcases List.mem_cons.1 hg with rfl | hg
    · exact ⟨_, _, hc⟩
    · exact ih hg

/-- Guards that pass have asked for no other shape than that of the node. -/
theorem Passes.shapeOf_eq (h : Passes e ctx b gs b') {s : Shape} (hs : .resultShape s ∈ gs) :
    ctx.crate.types.shapeOf e.id = .ok s := by
  obtain ⟨before, after, hc⟩ := h.check_of_mem hs
  cases (check_passed_iff rfl).1 hc with
  | resultShape h => exact h

end

/-! ## Rules from documents -/

section
variable {origin : String} {entries : List (Datum × Datum)} {r : Rule}

/-- The chain and the summaries of a rule from a document. -/
theorem listed_of_ofEntries (h : Rule.ofEntries origin entries = .ok r) :
    kindsOf r.guards = listedKinds entries ∧ r.classifier = .byTag (Rule.summaries (listedTags entries)) := by
  obtain ⟨name, tags, items, classify, guards, read, classifier⟩ := parts_of_ofEntries h
  constructor
  · rw [listedKinds, guards]
    exact (kinds_of_readGuards read).symm
  · rw [listedTags, classify]
    exact classifier

/-- What a rule from a document reports at a node. -/
theorem declared_reports (h : Rule.ofEntries origin entries = .ok r) (e : Expr) (ctx : Context) :
    let kinds := listedKinds entries
    ((∃ d, r.evaluate e ctx = .ok (.matched d)) ↔
      (∃ b, Passes e ctx {} r.guards b) ∧ "resolves" ∈ kinds ∧
        ∃ path tag, ctx.crate.resolve e.callee = .ok (some path) ∧ ctx.paths.lookup path = some tag ∧
          ∃ p ∈ listedTags entries, p.1.display = tag) ∧
    (∀ d, r.evaluate e ctx = .ok (.matched d) →
      ∃ path tag shape, ctx.crate.resolve e.callee = .ok (some path) ∧ ctx.paths.lookup path = some tag ∧
        IsLastUnder (listedTags entries) tag d.summary ∧
        (shape.isSome ↔ "result_shape" ∈ kinds) ∧ (∀ s, .resultShape s ∈ r.guards → shape = some s) ∧
        d = r.reportOf kinds e ctx.unit path shape d.summary) ∧
    ("resolves" ∉ kinds → ∀ d, r.evaluate e ctx ≠ .ok (.matched d)) := by
  obtain ⟨hk, hc⟩ := listed_of_ofEntries h
  have found : ∀ d, r.evaluate e ctx = .ok (.matched d) ↔ _ :=
    fun d => evaluate_matched_iff (plain_of_ofEntries h).guards hc
  rw [hk] at found
  refine ⟨⟨?_, ?_⟩, ?_, ?_⟩
  · rintro ⟨d, hd⟩
    obtain ⟨passes, hr, path, tag, summary, resolves, tagged, hs, -⟩ := (found d).1 hd
    exact ⟨passes, hr, path, tag, resolves, tagged, exists_isLastUnder_iff.1 ⟨_, summaries_get?_iff.1 hs⟩⟩
  · rintro ⟨passes, hr, path, tag, resolves, tagged, hp⟩
    obtain ⟨summary, last⟩ := exists_isLastUnder_iff.2 hp
    exact ⟨_, (found _).2 ⟨passes, hr, path, tag, summary, resolves, tagged, summaries_get?_iff.2 last, rfl⟩⟩
  · intro d hd
    obtain ⟨⟨b, passes⟩, hr, path, tag, summary, resolves, tagged, hs, rfl⟩ := (found d).1 hd
    -- all shapes that were asked for are the one the node has
    have shapes : ∀ s, .resultShape s ∈ r.guards → (foundBy (listedKinds entries) e ctx).shape = some s := by
      intro s hm
      have asked : "result_shape" ∈ listedKinds entries := hk ▸ shape_asked.2 ⟨s, hm⟩
      simp only [foundBy, if_pos asked, passes.shapeOf_eq hm]
      rfl
    refine ⟨path, tag, (foundBy (listedKinds entries) e ctx).shape, resolves, tagged, summaries_get?_iff.1 hs, ⟨?_, ?_⟩,
      shapes, diagnose_foundBy hr (symbolAt_eq_some_iff.2 ⟨resolves, tagged⟩) summary⟩
    · intro some
      by_contra unasked
      simp [foundBy, unasked] at some
    · intro asked
      obtain ⟨s, hm⟩ := shape_asked.1 (hk ▸ asked)
      rw [shapes s hm]
      rfl
  · intro unresolved d hd
    exact unresolved ((found d).1 hd).2.1

end

/-! ## A rule that resolves first -/

/-- A document whose guards stand in another order than those of the rule that is always there. -/
def zerosEntries : List (Datum × Datum) :=
  [(.text "name", .text "zeros"), (.text "category", .text "style"), (.text "node_kinds", .text "Call"),
   (.text "guards", .list [.map [(.text "resolves", .bool true)], .map [(.text "callee_is_path", .bool true)]]),
   (.text "classify", .map [(.text "uninit", .text "garbage"), (.text "zero_fill", .text "zeros")])]

/-- The rule of this document. -/
def zerosRule : Rule where
  name := "zeros"
  category := "style"
  nodeKinds := ["Call"]
  nodeKinds_nodup := List.nodup_singleton _
  guards := [.resolves, .calleeIsPath]
  classifier := .byTag ⟨[("uninit", "garbage"), ("zero_fill", "zeros")]⟩
  severity := "warning"

theorem resolves_zeroedCall : Guard.resolves.check (zeroedCall 2) ⟨halfSound, halfSoundCrate, .standard⟩ {} =
    .ok (.passed { symbol := some (⟨["core", "mem", "zeroed"]⟩, some "zero_fill") }) := by
  simp only [Guard.check, Option.none_or, halfSound_resolve]
  rfl

theorem zerosRule_passes :
    ∃ b, Passes (zeroedCall 2) ⟨halfSound, halfSoundCrate, .standard⟩ {} zerosRule.guards b :=
  ⟨_, .cons resolves_zeroedCall (.cons rfl (.nil _))⟩

theorem zerosRule_read : Rule.ofEntries "m" zerosEntries = .ok zerosRule := by
  have kinds : sortedSet (Datum.textList (.text "Call")) = ["Call"] := by decide +kernel
  have read : Rule.ofEntries "m" zerosEntries =
      .ok { zerosRule with
        nodeKinds := sortedSet (Datum.textList (.text "Call")), nodeKinds_nodup := nodup_sortedSet _ } := rfl
  simp only [read, kinds]
  rfl

/-- The identity is told although it was looked up before the callee was known to be a path. -/
theorem zeros_reported :
    Rule.ofEntries "m" zerosEntries = .ok zerosRule ∧
    ∃ d, zerosRule.evaluate (zeroedCall 2) ⟨halfSound, halfSoundCrate, .standard⟩ = .ok (.matched d) ∧
      d.summary = "zeros" ∧
      d.extras = [("callee", .text "core::mem::zeroed"), ("callee_text", .text "zeroed")] := by
  obtain ⟨found, reported, -⟩ := declared_reports zerosRule_read (zeroedCall 2) ⟨halfSound, halfSoundCrate, .standard⟩
  obtain ⟨d, hd⟩ := found.2 ⟨zerosRule_passes, by decide, _, _, halfSound_resolve, rfl, _, .tail _ (.head _), rfl⟩
  obtain ⟨path, tag, shape, resolves, tagged, last, shaped, -, hr⟩ := reported d hd
  cases halfSound_resolve.symm.trans resolves
  cases tagged
  have unshaped : shape = none := by
    rw [← Option.not_isSome_iff_eq_none, shaped]
    decide
  have summary : some d.summary = some "zeros" := (summaries_get?_iff.2 last).symm
  refine ⟨zerosRule_read, d, hd, Option.some.inj summary, ?_⟩
  rw [hr, unshaped]
  rfl

end ChainLint
