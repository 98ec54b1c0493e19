import ChainLint.Proofs.OpaqueIds
/-!
# Runs that go the same way

Two evaluations of one rule, at two nodes or in two contexts, go in step if its
guards answer alike and hand on related bindings (`run_inStep`). Guards do so
where they look up the same (`LookAlike.check`). Two units whose offers meet the
same first halt are given up for the same contradiction, or give what their
offers find (`units_of_halts`).
-/

namespace ChainLint

/-! ## Rules in step -/

/-- Two verdicts that go the same way: they halt alike, both fail, or both pass with related bindings. -/
inductive InStep (R : Bindings → Bindings → Prop) : Except Halt Verdict → Except Halt Verdict → Prop
  | halt (halt : Halt) : InStep R (.error halt) (.error halt)
  | failed : InStep R (.ok .failed) (.ok .failed)
  | passed {b b' : Bindings} (related : R b b') : InStep R (.ok (.passed b)) (.ok (.passed b'))

/-- Two answers that halt alike or not at all, with related findings. -/
def Alike (P : Option Diagnosis → Option Diagnosis → Prop) (x y : Except Halt Outcome) : Prop :=
  halt? x = halt? y ∧ P (finding? x) (finding? y)

section
variable {R : Bindings → Bindings → Prop} {P : Option Diagnosis → Option Diagnosis → Prop} {r : Rule}
  {e e' : Expr} {ctx ctx' : Context}

/-- Guards that go the same way under related bindings lead to answers that are alike, if the last
step does so. -/
theorem run_inStep (nothing : P none none) {gs : List Guard}
    (checks : ∀ g ∈ gs, ∀ b b', R b b' → InStep R (g.check e ctx b) (g.check e' ctx' b'))
    (concludes : ∀ b b', R b b' → Alike P (r.conclude e ctx b) (r.conclude e' ctx' b'))
    {b b' : Bindings} (related : R b b') : Alike P (r.run e ctx b gs) (r.run e' ctx' b' gs) := by
  -- on the guards that are left, for whatever the ones before handed on
  induction gs generalizing b b' with
  | nil => exact concludes b b' related
  | cons g rest ih =>
    obtain ⟨hg, hrest⟩ := List.forall_mem_cons.1 checks
    have step := hg b b' related
    rw [Rule.run, Rule.run]
    generalize g.check e ctx b = x, g.check e' ctx' b' = y at step
    cases step with
    | halt halt => exact ⟨rfl, nothing⟩
    | failed => exact ⟨rfl, nothing⟩
    | passed related => exact ih hrest related

end

/-! ## Rules that go by tags -/

/-- A rule made of guards that documents know, other than expressions, and a classifier by tags. -/
structure Rule.ByTag (r : Rule) : Prop where
  guards : ∀ g ∈ r.guards, g.isCustom = false ∧ g.isExpr = false
  classifier : ∃ summaries, r.classifier = .byTag summaries

/-- The rule that is always there and those of documents without expressions go by tags. -/
theorem Rule.Blind.byTag {r : Rule} (h : r.Blind) : r.ByTag := by
  refine ⟨fun g hg => ⟨h.declared.plain.guards g hg, h.noExpr g hg⟩, ?_⟩
  rcases h.declared with rfl | ⟨origin, entries, h⟩
  · exact ⟨_, rfl⟩
  · exact (guards_of_ofEntries h).2

section
variable {r : Rule} {summaries : Table String String} {e : Expr} {ctx : Context}

theorem halt?_conclude (h : r.classifier = .byTag summaries) (b : Bindings) :
    halt? (r.conclude e ctx b) = none := by
  rw [Rule.conclude, h]
  simp only [Classifier.summary?, bind, Except.bind]
  cases b.tag?.bind summaries.get? <;> rfl

theorem finding?_conclude (h : r.classifier = .byTag summaries) (b : Bindings) :
    finding? (r.conclude e ctx b) = (b.tag?.bind summaries.get?).map (r.diagnose e ctx.unit b) := by
  rw [Rule.conclude, h]
  simp only [Classifier.summary?, bind, Except.bind]
  cases b.tag?.bind summaries.get? <;> rfl

/-- Without expressions there is no fault that does not count as not holding. -/
theorem Rule.ByTag.ne_uncaught (h : r.ByTag) (fault : Guard.Fault) :
    r.evaluate e ctx ≠ .error (.uncaught fault) := by
  intro he
  obtain ⟨summaries, hc⟩ := h.classifier
  have noCustom : r.classifier.isCustom = false := by
    rw [hc]
    rfl
  obtain ⟨before, text, t, after, b, hg, -, -⟩ := run_uncaught noCustom (fun g hg => (h.guards g hg).1) he
  have expr := (h.guards (.expr text (some t)) (by rw [hg]; simp)).2
  cases expr

end

/-! ## Nodes at which guards look up the same -/

/-- What guards look up at two nodes, each in its context, is the same, and what they then bind keeps
bindings related. -/
structure LookAlike (R : Bindings → Bindings → Prop) (e e' : Expr) (ctx ctx' : Context) : Prop where
  kind : e'.kind = e.kind
  args : e'.args.length = e.args.length
  callee : Option.Rel (fun callee callee' => callee'.kind = callee.kind ∧
    ∀ b b', R b b' → R { b with callee := some callee } { b' with callee := some callee' }) e.callee e'.callee
  shape : ctx'.crate.types.shapeOf e'.id = ctx.crate.types.shapeOf e.id
  bindShape : ∀ b b' shape, R b b' → R { b with shape := some shape } { b' with shape := some shape }
  resolve : ∀ b b', R b b' →
    ctx'.crate.resolve (b'.callee.or e'.callee) = ctx.crate.resolve (b.callee.or e.callee)
  bindSymbol : ∀ b b' path, R b b' → ctx.crate.resolve (b.callee.or e.callee) = .ok (some path) →
    R { b with symbol := some (path, ctx.paths.lookup path) } { b' with symbol := some (path, ctx'.paths.lookup path) }

section
variable {R : Bindings → Bindings → Prop} {P : Option Diagnosis → Option Diagnosis → Prop} {r : Rule}
  {e e' : Expr} {ctx ctx' : Context}

/-- Guards other than expressions go the same way where they look up the same. -/
theorem LookAlike.check (h : LookAlike R e e' ctx ctx') {g : Guard} (hg : g.isCustom = false)
    (hn : g.isExpr = false) {b b' : Bindings} (related : R b b') :
    InStep R (g.check e ctx b) (g.check e' ctx' b') := by
  cases g with
  | callArity count =>
    have isSome : e'.callee.isSome = e.callee.isSome := by
      have callee := h.callee
      generalize e.callee = x, e'.callee = y at callee
      cases callee <;> rfl
    simp only [Guard.check, h.kind, isSome, h.args]
    split
    · exact .passed related
    · exact .failed
  | calleeIsPath =>
    have callee := h.callee
    simp only [Guard.check]
    generalize e.callee = x, e'.callee = y at callee
    cases callee with
    | none => exact .failed
    | some same =>
      simp only [same.1]
      split
      · exact .passed (same.2 b b' related)
      · exact .failed
  | resultShape shape =>
    simp only [Guard.check, h.shape]
    cases ctx.crate.types.shapeOf e.id with
    | error fault => exact .halt _
    | ok actual =>
      simp only [Except.mapError, bind, Except.bind, pure, Except.pure]
      split
      · exact .passed (h.bindShape b b' actual related)
      · exact .failed
  | resolves =>
    simp only [Guard.check, h.resolve b b' related]
    cases found : ctx.crate.resolve (b.callee.or e.callee) with
    | error fault => exact .halt _
    | ok path =>
      cases path with
      | none => exact .failed
      | some path => exact .passed (h.bindSymbol b b' path related found)
  | expr text term => cases hn
  | custom name holds => cases hg

/-- Rules by tags give answers that are alike, if what they find under related bindings is alike. -/
theorem LookAlike.evaluate (h : LookAlike R e e' ctx ctx') (hr : r.ByTag) (start : R {} {}) (nothing : P none none)
    (findings : ∀ (summaries : Table String String) b b', R b b' →
      P ((b.tag?.bind summaries.get?).map (r.diagnose e ctx.unit b))
        ((b'.tag?.bind summaries.get?).map (r.diagnose e' ctx'.unit b'))) :
    Alike P (r.evaluate e ctx) (r.evaluate e' ctx') := by
  obtain ⟨summaries, hc⟩ := hr.classifier
  refine run_inStep nothing (fun g hg b b' => h.check (hr.guards g hg).1 (hr.guards g hg).2)
    (fun b b' related => ⟨?_, ?_⟩) start
  · rw [halt?_conclude hc, halt?_conclude hc]
  · rw [finding?_conclude hc, finding?_conclude hc]
    exact findings summaries b b' related

end

/-! ## Units in step -/

/-- Units whose offers meet the same first halt, if any, are given up for the same contradiction, or else
give what their offers find. Rules by tags meet no other halt. -/
theorem units_of_halts {paths paths' : PathTable} {crate crate' : Crate} {u u' : CodeUnit} {registry : Registry}
    (hr : registry.Reachable) (hb : ∀ rule ∈ registry.rules, rule.ByTag)
    (same : firstHalt? ⟨u, crate, paths⟩ (offers registry u.body) =
      firstHalt? ⟨u', crate', paths'⟩ (offers registry u'.body)) (memory memory' : Memory) :
    let before := analyzeUnit registry paths crate memory u
    let after := analyzeUnit registry paths' crate' memory' u'
    before.stopped = none ∧ after.stopped = none ∧
      ((before.gaveUp = false ∧ after.gaveUp = false ∧
          before.diagnoses = (offers registry u.body).filterMap (fun p => finding? (answer ⟨u, crate, paths⟩ p)) ∧
          after.diagnoses = (offers registry u'.body).filterMap fun p => finding? (answer ⟨u', crate', paths'⟩ p)) ∨
        ∃ fault, before.diagnoses = [.ofMalformed u fault] ∧ after.diagnoses = [.ofMalformed u' fault]) := by
  intro before after
  cases h : firstHalt? ⟨u, crate, paths⟩ (offers registry u.body) with
  | none =>
    obtain ⟨stopped, gaveUp, found⟩ := unit_of_no_halt h memory
    obtain ⟨stopped', gaveUp', found'⟩ := unit_of_no_halt (same.symm.trans h) memory'
    exact ⟨stopped, stopped', .inl ⟨gaveUp, gaveUp', found, found'⟩⟩
  | some halt =>
    cases halt with
    | malformed fault =>
      obtain ⟨stopped, -, given⟩ := unit_of_contradiction h memory
      obtain ⟨stopped', -, given'⟩ := unit_of_contradiction (same.symm.trans h) memory'
      exact ⟨stopped, stopped', .inr ⟨fault, given, given'⟩⟩
    | uncaught fault =>
      obtain ⟨p, hp, ha⟩ := firstHalt?_eq_some h
      exact absurd ha ((hb p.2 (hr.rule_of_offer hp)).ne_uncaught fault)

/-! ## Offers in pairs -/

/-- Offers that halt alike one by one have the same first halt. -/
theorem firstHalt?_forall₂ {ctx ctx' : Context} {ps ps' : List (Expr × Rule)}
    (h : List.Forall₂ (fun p p' => halt? (answer ctx p) = halt? (answer ctx' p')) ps ps') :
    firstHalt? ctx ps = firstHalt? ctx' ps' := by
  unfold firstHalt?
  induction h with
  | nil => rfl
  | cons hp _ ih => rw [List.findSome?_cons, List.findSome?_cons, hp, ih]

theorem filterMap_forall₂ {α β γ : Type} {f : α → Option γ} {g : β → Option γ} {l : List α} {l' : List β}
    (h : List.Forall₂ (fun a b => f a = g b) l l') : l.filterMap f = l'.filterMap g := by
  induction h with
  | nil => rfl
  | cons hab _ ih => rw [List.filterMap_cons, List.filterMap_cons, hab, ih]

end ChainLint
