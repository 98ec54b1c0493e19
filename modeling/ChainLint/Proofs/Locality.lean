import ChainLint.Proofs.Analysis
import ChainLint.Rule.Reading
/-!
# A unit sees its own entries only

`unitResult_congr`: two crates give a unit the same diagnoses if they have the
same types and declarations and file the same for the numbers of its nodes.
The rules may be the one that is always there and those of documents: what
they look up is filed under a node or its callee.
-/

namespace ChainLint

/-- Crates with the same types and declarations that file the same under some numbers. -/
structure Crate.AgreeOn (c c' : Crate) (ids : List Int) : Prop where
  types : c.types.types = c'.types.types
  declarations : c.declarations = c'.declarations
  nodeTypes : ∀ id ∈ ids, c.types.nodeTypes.get? id = c'.types.nodeTypes.get? id
  denotations : ∀ id ∈ ids, c.denotations.get? id = c'.denotations.get? id

/-! ## Rules that bring no code -/

/-- Whether a guard is brought by other code. -/
def Guard.isCustom : Guard → Bool
  | .custom .. => true
  | _ => false

/-- Whether a classifier is brought by other code. -/
def Classifier.isCustom : Classifier → Bool
  | .custom _ => true
  | _ => false

/-- A rule made of the guards and classifiers that documents know. -/
structure Rule.Plain (r : Rule) : Prop where
  guards : ∀ g ∈ r.guards, g.isCustom = false
  classifier : r.classifier.isCustom = false

/-- The rule that is always there, or one that a document describes. -/
def Rule.Declared (r : Rule) : Prop :=
  r = invalidRef ∨ ∃ origin entries, Rule.ofEntries origin entries = .ok r

theorem isCustom_of_guard {kind : String} {value : Datum} {g : Guard}
    (h : Rule.guard kind value = .ok g) : g.isCustom = false := by
  unfold Rule.guard at h
  split at h
  · split at h <;> cases h
    rfl
  · split at h <;> cases h
    rfl
  · split at h <;> cases h
    rfl
  · split at h <;> cases h
    rfl
  · dsimp only at h
    split at h <;> cases h
    rfl
  · cases h

theorem exists_of_readGuard {name origin : String} {d : Datum} {g : Guard}
    (h : Rule.readGuard name origin d = .ok g) : ∃ kind value, Rule.guard kind value = .ok g := by
  unfold Rule.readGuard at h
  split at h
  · split at h
    · next hg =>
      cases h
      exact ⟨_, _, hg⟩
    · cases h
    · cases h
  · cases h

theorem exists_of_readGuards {name origin : String} {ds : List Datum} {gs : List Guard}
    (h : Rule.readGuards name origin ds = .ok gs) :
    ∀ g ∈ gs, ∃ kind value, Rule.guard kind value = .ok g := by
  induction ds generalizing gs with
  | nil =>
    cases h
    intro g hg
    cases hg
  | cons d rest ih =>
    obtain ⟨g, hg, h⟩ := exists_of_bind_eq_ok h
    obtain ⟨later, hl, h⟩ := exists_of_bind_eq_ok h
    cases h
    exact List.forall_mem_cons.2 ⟨exists_of_readGuard hg, ih hl⟩

/-- Where the guards and the classifier of a rule from a document come from. -/
theorem parts_of_ofEntries {origin : String} {entries : List (Datum × Datum)} {r : Rule}
    (h : Rule.ofEntries origin entries = .ok r) :
    ∃ name tags items, ((Datum.field? "classify" entries).getD .null).core = .map tags ∧
      Datum.fieldItems (Datum.field? "guards" entries) = .ok items ∧
      Rule.readGuards name origin items = .ok r.guards ∧ r.classifier = .byTag (Rule.summaries tags) := by
  unfold Rule.ofEntries at h
  dsimp only at h
  split at h
  · cases h
  · split at h
    · next tags ht =>
      obtain ⟨tags, htags, h⟩ := exists_of_bind_eq_ok h
      cases htags
      obtain ⟨severity, -, h⟩ := exists_of_bind_eq_ok h
      split at h
      · next items hi =>
        obtain ⟨items, hitems, h⟩ := exists_of_bind_eq_ok h
        cases hitems
        obtain ⟨guards, hg, h⟩ := exists_of_bind_eq_ok h
        cases h
        exact ⟨_, _, _, ht, hi, hg, rfl⟩
      · cases h
    · cases h

/-- The guards of a rule from a document come from a kind and a value each, and its classifier goes
by tags. -/
theorem guards_of_ofEntries {origin : String} {entries : List (Datum × Datum)} {r : Rule}
    (h : Rule.ofEntries origin entries = .ok r) :
    (∀ g ∈ r.guards, ∃ kind value, Rule.guard kind value = .ok g) ∧
      ∃ summaries, r.classifier = .byTag summaries := by
  obtain ⟨name, tags, items, -, -, read, classifier⟩ := parts_of_ofEntries h
  exact ⟨exists_of_readGuards read, _, classifier⟩

theorem plain_of_ofEntries {origin : String} {entries : List (Datum × Datum)} {r : Rule}
    (h : Rule.ofEntries origin entries = .ok r) : r.Plain := by
  obtain ⟨guards, summaries, hc⟩ := guards_of_ofEntries h
  refine ⟨fun g hg => ?_, by rw [hc]; rfl⟩
  obtain ⟨kind, value, h⟩ := guards g hg
  exact isCustom_of_guard h

theorem Rule.Declared.plain {r : Rule} (h : r.Declared) : r.Plain := by
  rcases h with rfl | ⟨origin, entries, h⟩
  · exact ⟨by decide, rfl⟩
  · exact plain_of_ofEntries h

/-! ## What a rule looks up -/

section
variable {c c' : Crate} {ids : List Int} {u : CodeUnit} {paths : PathTable} {e : Expr}

theorem Crate.AgreeOn.shapeOf_eq (h : c.AgreeOn c' ids) {id : Int} (hid : id ∈ ids) :
    c.types.shapeOf id = c'.types.shapeOf id := by
  simp only [TypeTable.shapeOf, TypeTable.ofNode, h.nodeTypes id hid, h.types]

theorem Crate.AgreeOn.declarationOf_eq (h : c.AgreeOn c' ids) : c.declarationOf = c'.declarationOf := by
  funext id
  rw [Crate.declarationOf, Crate.declarationOf, h.declarations]

theorem Crate.AgreeOn.dispatch_eq (h : c.AgreeOn c' ids) : c.dispatch = c'.dispatch := by
  funext method self
  simp only [Crate.dispatch, TypeTable.lookup, h.types, h.declarationOf_eq]

theorem Crate.AgreeOn.resolve_eq (h : c.AgreeOn c' ids) {callee : Option Expr}
    (hc : ∀ e, callee = some e → e.id ∈ ids) : c.resolve callee = c'.resolve callee := by
  cases callee with
  | none => rfl
  | some e => simp only [Crate.resolve, h.denotations e.id (hc e rfl), h.declarationOf_eq, h.dispatch_eq]

/-- No callee is bound but that of the node. -/
def Bindings.OwnCallee (b : Bindings) (e : Expr) : Prop := b.callee = none ∨ b.callee = e.callee

theorem Bindings.OwnCallee.or_eq {b : Bindings} (h : b.OwnCallee e) : b.callee.or e.callee = e.callee := by
  rcases h with h | h
  · rw [h, Option.none_or]
  · rw [h, Option.or_self]

theorem mapError_eq_ok_iff {ε ε' α : Type} {x : Except ε α} {f : ε → ε'} {a : α} :
    x.mapError f = .ok a ↔ x = .ok a := by
  cases x <;> simp [Except.mapError]

/-- What it takes for a guard that documents know to pass, and what it leaves bound. -/
inductive Guard.Binds (e : Expr) (ctx : Context) (b : Bindings) : Guard → Bindings → Prop
  | callArity {count : Int} (h : e.kind = "Call" ∧ e.callee.isSome ∧ (e.args.length : Int) = count) :
    Binds e ctx b (.callArity count) b
  | calleeIsPath {callee : Expr} (hc : e.callee = some callee) (isPath : callee.kind = "Path") :
    Binds e ctx b .calleeIsPath { b with callee := some callee }
  | resultShape {shape : Shape} (h : ctx.crate.types.shapeOf e.id = .ok shape) :
    Binds e ctx b (.resultShape shape) { b with shape := some shape }
  | resolves {path : SymbolPath} (h : ctx.crate.resolve (b.callee.or e.callee) = .ok (some path)) :
    Binds e ctx b .resolves { b with symbol := some (path, ctx.paths.lookup path) }
  | blank {text : String} : Binds e ctx b (.expr text none) b
  | expr {text : String} {t : Guard.Term} {v : Guard.Value} (h : Guard.eval (b.scope e ctx.unit) t = .ok v)
    (holds : v.isTruthy = true) : Binds e ctx b (.expr text (some t)) b

theorem check_passed_iff {g : Guard} {ctx : Context} {b b' : Bindings} (hg : g.isCustom = false) :
    g.check e ctx b = .ok (.passed b') ↔ g.Binds e ctx b b' := by
  constructor
  · intro h
    cases g with
    | callArity count =>
      simp only [Guard.check] at h
      split at h
      · next holds =>
        cases h
        exact .callArity holds
      · cases h
    | calleeIsPath =>
      simp only [Guard.check] at h
      split at h
      · next callee hc =>
        split at h
        · next isPath =>
          cases h
          exact .calleeIsPath hc isPath
        · cases h
      · cases h
    | resultShape shape =>
      obtain ⟨actual, hs, h⟩ := exists_of_bind_eq_ok h
      split at h
      · next same =>
        cases h
        rw [same] at hs ⊢
        exact .resultShape (mapError_eq_ok_iff.1 hs)
      · cases h
    | resolves =>
      obtain ⟨path, hr, h⟩ := exists_of_bind_eq_ok h
      cases path with
      | none => cases h
      | some path =>
        cases h
        exact .resolves (mapError_eq_ok_iff.1 hr)
    | expr text term =>
      simp only [Guard.check, Guard.checkTerm] at h
      split at h
      · cases h
        exact .blank
      · split at h
        · next v hv =>
          split at h
          · next holds =>
            cases h
            exact .expr hv holds
          · cases h
        · split at h <;> cases h
    | custom name holds => cases hg
  · intro h
    cases h with
    | callArity h => simp only [Guard.check, if_pos h]
    | calleeIsPath hc isPath => simp only [Guard.check, hc, if_pos isPath]
    | resultShape h =>
      simp only [Guard.check, h]
      exact congrArg Except.ok (if_pos rfl)
    | resolves h =>
      simp only [Guard.check, h]
      rfl
    | blank => rfl
    | expr h holds => simp only [Guard.check, Guard.checkTerm, h, if_pos holds]

/-- A guard binds no callee but that of the node. -/
theorem ownCallee_of_check {g : Guard} {ctx : Context} {b b' : Bindings} (hg : g.isCustom = false)
    (hb : b.OwnCallee e) (h : g.check e ctx b = .ok (.passed b')) : b'.OwnCallee e := by
  cases (check_passed_iff hg).1 h with
  | calleeIsPath hc isPath => exact .inr hc.symm
  | _ => exact hb

theorem check_congr (h : c.AgreeOn c' ids) (he : e.id ∈ ids)
    (hc : ∀ callee, e.callee = some callee → callee.id ∈ ids) {g : Guard} {b : Bindings}
    (hg : g.isCustom = false) (hb : b.OwnCallee e) :
    g.check e ⟨u, c, paths⟩ b = g.check e ⟨u, c', paths⟩ b := by
  cases g with
  | callArity count => rfl
  | calleeIsPath => rfl
  | resultShape shape => simp only [Guard.check, h.shapeOf_eq he]
  | resolves => simp only [Guard.check, hb.or_eq, h.resolve_eq hc]
  | expr text term => rfl
  | custom name holds => cases hg

theorem conclude_congr {r : Rule} (hr : r.classifier.isCustom = false) (b : Bindings) :
    r.conclude e ⟨u, c, paths⟩ b = r.conclude e ⟨u, c', paths⟩ b := by
  have hs : r.classifier.summary? e ⟨u, c, paths⟩ b = r.classifier.summary? e ⟨u, c', paths⟩ b := by
    cases hk : r.classifier with
    | byTag summaries => rfl
    | constant summary => rfl
    | custom summary => cases hk ▸ hr
  simp only [Rule.conclude, hs]

/-- The chain of guards goes the same way in both crates, as the callee that is bound stays that of
the node. -/
theorem run_congr (h : c.AgreeOn c' ids) (he : e.id ∈ ids)
    (hc : ∀ callee, e.callee = some callee → callee.id ∈ ids) {r : Rule}
    (hr : r.classifier.isCustom = false) {gs : List Guard} (hgs : ∀ g ∈ gs, g.isCustom = false)
    {b : Bindings} (hb : b.OwnCallee e) :
    r.run e ⟨u, c, paths⟩ b gs = r.run e ⟨u, c', paths⟩ b gs := by
  induction gs generalizing b with
  | nil => exact conclude_congr hr b
  | cons g rest ih =>
    obtain ⟨hg, hrest⟩ := List.forall_mem_cons.1 hgs
    rw [Rule.run, Rule.run, check_congr h he hc hg hb]
    cases hv : g.check e ⟨u, c', paths⟩ b with
    | error halt => rfl
    | ok verdict =>
      cases verdict with
      | passed b' => exact ih hrest (ownCallee_of_check hg hb hv)
      | failed => rfl
      | broken text fault => rfl

theorem evaluate_congr (h : c.AgreeOn c' ids) (he : e.id ∈ ids)
    (hc : ∀ callee, e.callee = some callee → callee.id ∈ ids) {r : Rule} (hr : r.Plain) :
    r.evaluate e ⟨u, c, paths⟩ = r.evaluate e ⟨u, c', paths⟩ :=
  run_congr h he hc hr.classifier hr.guards (.inl rfl)

/-- A unit gives the same in crates that agree on the numbers of its nodes. -/
theorem unitResult_congr {registry : Registry} (hr : registry.Reachable)
    (hp : ∀ rule ∈ registry.rules, rule.Plain) (h : c.AgreeOn c' u.body.ids) :
    unitResult registry paths c u = unitResult registry paths c' u := by
  have ha : ∀ p ∈ offers registry u.body, answer ⟨u, c, paths⟩ p = answer ⟨u, c', paths⟩ p := by
    intro p hm
    obtain ⟨e, he, hm⟩ := List.mem_flatMap.1 hm
    obtain ⟨rule, hrule, rfl⟩ := List.mem_map.1 hm
    rw [Expr.walk_eq_preorder] at he
    rw [hr.rulesFor_eq] at hrule
    exact evaluate_congr h (Expr.id_mem_ids he)
      (fun callee hc => Expr.id_mem_ids (Expr.callee_mem_preorder he hc)) (hp rule (List.mem_filter.1 hrule).1)
  have hf : (offers registry u.body).map (answer ⟨u, c, paths⟩) =
      (offers registry u.body).map (answer ⟨u, c', paths⟩) := List.map_congr_left ha
  rw [unitResult_eq, unitResult_eq, hf]

end

end ChainLint
