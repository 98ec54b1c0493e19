import ChainLint.Proofs.Lockstep
import ChainLint.Proofs.Resolve
/-!
# What is missing does no silent damage

`deletion_contained`: with some types and declarations deleted from a crate, a
unit gives what it gave before, or else the internal diagnosis alone. Every
look-up in the smaller crate finds what it finds in the larger one, or ends in a
contradiction (`Crate.Within.chase`, `Crate.Within.dispatch`). Nothing takes a
missing entry for an answer, so the same holds of every rule at every node, and
the first contradiction beats all that was found.
-/

namespace ChainLint

/-- The second crate has all types and declarations of the first one, and the same types of nodes and
uses of paths. The first is the second with entries deleted. -/
structure Crate.Within (small large : Crate) : Prop where
  nodeTypes : small.types.nodeTypes = large.types.nodeTypes
  denotations : small.denotations = large.denotations
  types : ∀ ty entry, small.types.types.get? ty = some entry → large.types.types.get? ty = some entry
  declarations : ∀ id d, small.declarations.get? id = some d → large.declarations.get? id = some d

/-- The first answer is the second one, or a contradiction. -/
def Cautious {α : Type} (x y : Except Malformed α) : Prop := x = y ∨ ∃ fault, x = .error fault

section
variable {α β : Type} {x y : Except Malformed α}

theorem cautious_refl (x : Except Malformed α) : Cautious x x := .inl rfl

theorem cautious_error (fault : Malformed) : Cautious (.error fault) y := .inr ⟨fault, rfl⟩

theorem Cautious.bind {f g : α → Except Malformed β} (h : Cautious x y) (hf : ∀ a, Cautious (f a) (g a)) :
    Cautious (x >>= f) (y >>= g) := by
  rcases h with rfl | ⟨fault, rfl⟩
  · cases x with
    | error fault => exact cautious_error fault
    | ok a => exact hf a
  · exact cautious_error fault

theorem Cautious.map {f : α → β} (h : Cautious x y) : Cautious (f <$> x) (f <$> y) := by
  rcases h with rfl | ⟨fault, rfl⟩
  · exact cautious_refl _
  · exact cautious_error fault

end

namespace Crate.Within

variable {small large : Crate}

/-! ## Look-ups -/

theorem lookup (h : small.Within large) (ty : Int) :
    Cautious (small.types.lookup ty) (large.types.lookup ty) := by
  unfold TypeTable.lookup
  cases entry : small.types.types.get? ty with
  | none => exact cautious_error _
  | some t =>
    rw [h.types ty t entry]
    exact cautious_refl _

theorem shapeOf (h : small.Within large) (node : Int) :
    Cautious (small.types.shapeOf node) (large.types.shapeOf node) := by
  refine Cautious.bind ?_ fun entry => cautious_refl _
  unfold TypeTable.ofNode
  rw [h.nodeTypes]
  cases large.types.nodeTypes.get? node with
  | none => exact cautious_refl _
  | some ty =>
    cases entry : small.types.types.get? ty with
    | none =>
      simp only [entry]
      exact cautious_error _
    | some t =>
      simp only [entry, h.types ty t entry]
      exact cautious_refl _

/-- The search in the smaller crate passes the aliases that the search in the larger one passes, up to
the first that is missing. -/
theorem chase (h : small.Within large) (seen : List Int) (id : Int) :
    Cautious (ChainLint.chase small.declarations seen id) (ChainLint.chase large.declarations seen id) := by
  fun_induction ChainLint.chase small.declarations seen id with
  | case1 seen id entry => exact cautious_error _
  | case2 seen id a entry isAlias again => exact cautious_error _
  | case3 seen id a entry isAlias new target => exact cautious_error _
  | case4 seen id a entry isAlias new next target ih =>
    rw [chase_via (h.declarations id a entry) isAlias (by simpa using new) target]
    exact ih
  | case5 seen id d entry noAlias =>
    rw [chase_of_chainEnd (.found (h.declarations id d entry) (by simpa using noAlias))]
    exact cautious_refl _

theorem declarationOf (h : small.Within large) (id : Int) :
    Cautious (small.declarationOf id) (large.declarationOf id) :=
  h.chase [] id

theorem dispatch (h : small.Within large) (method : Declaration) (self : Option Int) :
    Cautious (small.dispatch method self) (large.dispatch method self) := by
  cases self with
  | none => exact cautious_refl _
  | some ty =>
    refine (h.lookup ty).bind fun entry => ?_
    split
    · exact cautious_refl _
    · cases method.impls.get? ty with
      | none => exact cautious_refl _
      | some impl => exact (h.declarationOf impl).map

theorem resolve (h : small.Within large) (callee : Option Expr) :
    Cautious (small.resolve callee) (large.resolve callee) := by
  rcases names_or_nothing small callee with nothing | ⟨use, id, names⟩
  · have nothing' : NamesNothing large callee := by
      cases nothing with
      | noCallee => exact .noCallee
      | noPath kind => exact .noPath kind
      | noUse use => exact .noUse (h.denotations ▸ use)
      | isLocal entry isLocal => exact .isLocal (h.denotations ▸ entry) isLocal
      | noDeclaration entry decl => exact .noDeclaration (h.denotations ▸ entry) decl
    rw [resolve_of_nothing nothing, resolve_of_nothing nothing']
    exact cautious_refl _
  · have names' : Names large callee use id := by
      obtain ⟨kind, entry, isGlobal, decl⟩ := names
      exact .path kind (h.denotations ▸ entry) isGlobal decl
    rw [resolve_of_names names, resolve_of_names names']
    refine (h.declarationOf id).bind fun d => ?_
    split
    · exact (h.dispatch d use.selfType).bind fun i => cautious_refl _
    · exact cautious_refl _

/-! ## Rules -/

section
variable (u : CodeUnit) (paths : PathTable) (e : Expr)

theorem check (h : small.Within large) {g : Guard} (hg : g.isCustom = false) (b : Bindings) :
    g.check e ⟨u, small, paths⟩ b = g.check e ⟨u, large, paths⟩ b ∨
      ∃ fault, g.check e ⟨u, small, paths⟩ b = .error (.malformed fault) := by
  cases g with
  | callArity count => exact .inl rfl
  | calleeIsPath => exact .inl rfl
  | resultShape shape =>
    rcases h.shapeOf e.id with same | ⟨fault, missing⟩
    · simp only [Guard.check, same, true_or]
    · simp only [Guard.check, missing]
      exact .inr ⟨fault, rfl⟩
  | resolves =>
    rcases h.resolve (b.callee.or e.callee) with same | ⟨fault, missing⟩
    · simp only [Guard.check, same, true_or]
    · simp only [Guard.check, missing]
      exact .inr ⟨fault, rfl⟩
  | expr text term => exact .inl rfl
  | custom name holds => cases hg

/-- The chain of guards goes the same way in both crates, up to a contradiction in the smaller one. -/
theorem run (h : small.Within large) {r : Rule} (hr : r.classifier.isCustom = false) {gs : List Guard}
    (hgs : ∀ g ∈ gs, g.isCustom = false) (b : Bindings) :
    r.run e ⟨u, small, paths⟩ b gs = r.run e ⟨u, large, paths⟩ b gs ∨
      ∃ fault, r.run e ⟨u, small, paths⟩ b gs = .error (.malformed fault) := by
  induction gs generalizing b with
  | nil => exact .inl (conclude_congr hr b)
  | cons g rest ih =>
    obtain ⟨hg, hrest⟩ := List.forall_mem_cons.1 hgs
    rw [Rule.run, Rule.run]
    rcases h.check u paths e hg b with same | ⟨fault, missing⟩
    · rw [same]
      rcases g.check e ⟨u, large, paths⟩ b with halt | verdict
      · exact .inl rfl
      · cases verdict with
        | passed b' => exact ih hrest b'
        | failed => exact .inl rfl
        | broken text fault => exact .inl rfl
    · rw [missing]
      exact .inr ⟨fault, rfl⟩

theorem evaluate (h : small.Within large) {r : Rule} (hr : r.Plain) :
    r.evaluate e ⟨u, small, paths⟩ = r.evaluate e ⟨u, large, paths⟩ ∨
      ∃ fault, r.evaluate e ⟨u, small, paths⟩ = .error (.malformed fault) :=
  h.run u paths e hr.classifier hr.guards {}

end

/-! ## Units -/

variable {u : CodeUnit} {paths : PathTable} {registry : Registry}

/-- An answer in the smaller crate that is no contradiction is the answer in the larger one. -/
theorem answer_eq (h : small.Within large) (hr : registry.Reachable)
    (hp : ∀ rule ∈ registry.rules, rule.Plain) {p : Expr × Rule} (hm : p ∈ offers registry u.body)
    (sound : ∀ fault, halt? (answer ⟨u, small, paths⟩ p) ≠ some (.malformed fault)) :
    answer ⟨u, small, paths⟩ p = answer ⟨u, large, paths⟩ p := by
  rcases h.evaluate u paths p.1 (hp p.2 (hr.rule_of_offer hm)) with same | ⟨fault, ha⟩
  · exact same
  · refine absurd ?_ (sound fault)
    rw [answer, ha]
    rfl

theorem unitResult (h : small.Within large) (hr : registry.Reachable)
    (hp : ∀ rule ∈ registry.rules, rule.Plain) (paths : PathTable) (u : CodeUnit) :
    ChainLint.unitResult registry paths small u = ChainLint.unitResult registry paths large u ∨
      ∃ fault, ChainLint.unitResult registry paths small u = .ok [.ofMalformed u fault] := by
  cases hs : firstHalt? ⟨u, small, paths⟩ (offers registry u.body) with
  | none =>
    refine .inl ?_
    have same : (offers registry u.body).map (answer ⟨u, small, paths⟩) =
        (offers registry u.body).map (answer ⟨u, large, paths⟩) := by
      refine List.map_congr_left fun p hm => h.answer_eq hr hp hm fun fault found => ?_
      rw [List.findSome?_eq_none_iff.1 hs p hm] at found
      cases found
    rw [unitResult_eq, unitResult_eq, same]
  | some halt =>
    cases halt with
    | malformed fault =>
      refine .inr ⟨fault, ?_⟩
      rw [ChainLint.unitResult, ← firstHalt?, hs]
      rfl
    | uncaught fault =>
      -- the larger crate gives the same answers up to this fault, so it ends there as well
      have hl : firstHalt? ⟨u, large, paths⟩ (offers registry u.body) = some (.uncaught fault) := by
        obtain ⟨before, p, after, ho, ha, hb⟩ := List.findSome?_eq_some_iff.1 hs
        have same : ∀ q ∈ offers registry u.body, halt? (answer ⟨u, small, paths⟩ q) = none ∨
            halt? (answer ⟨u, small, paths⟩ q) = some (.uncaught fault) →
            answer ⟨u, small, paths⟩ q = answer ⟨u, large, paths⟩ q := by
          intro q hm hq
          refine h.answer_eq hr hp hm fun fault' found => ?_
          rcases hq with hq | hq <;> cases hq.symm.trans found
        refine List.findSome?_eq_some_iff.2 ⟨before, p, after, ho, ?_, fun q hq => ?_⟩
        · rwa [← same p (by simp [ho]) (.inr ha)]
        · rw [← same q (by simp [ho, hq]) (.inl (hb q hq))]
          exact hb q hq
      refine .inl ?_
      rw [ChainLint.unitResult, ChainLint.unitResult, ← firstHalt?, ← firstHalt?, hs, hl]
      rfl

end Crate.Within

/-- With any types and declarations deleted from a crate, every unit gives what it gave before, a fault
that ends its analysis included, or else the internal diagnosis and nothing else. The rules are those
that are always there or that documents describe. -/
theorem deletion_contained {registry : Registry} (hr : registry.Reachable)
    (hd : ∀ rule ∈ registry.rules, rule.Declared) (paths : PathTable) {small large : Crate}
    (h : small.Within large) (u : CodeUnit) (memory memory' : Memory) :
    let less := analyzeUnit registry paths small memory u
    let full := analyzeUnit registry paths large memory' u
    less.result = full.result ∨ ∃ fault, less.result = .ok [.ofMalformed u fault] := by
  intro less full
  rw [analyzeUnit_result, analyzeUnit_result]
  exact h.unitResult hr (fun rule hm => (hd rule hm).plain) paths u

/-! ## A crate with a type deleted -/

/-- The crate with only those types and declarations whose numbers are kept. -/
def Crate.keeping (c : Crate) (type decl : Int → Bool) : Crate :=
  { c with
    types := ⟨⟨c.types.types.entries.filter fun e => type e.1⟩, c.types.nodeTypes⟩
    declarations := ⟨c.declarations.entries.filter fun e => decl e.1⟩ }

theorem Table.get?_filter {α : Type} (t : Table Int α) (keep : Int → Bool) (k : Int) :
    Table.get? ⟨t.entries.filter fun e => keep e.1⟩ k = if keep k then t.get? k else none := by
  obtain ⟨entries⟩ := t
  unfold Table.get?
  induction entries with
  | nil => simp
  | cons e rest ih =>
    obtain ⟨k', a⟩ := e
    by_cases hk : k' = k
    · subst hk
      by_cases kept : keep k' <;> simp_all [Table.find?]
    · by_cases kept : keep k' <;> simp_all [Table.find?]

theorem Crate.within_keeping (c : Crate) (type decl : Int → Bool) : (c.keeping type decl).Within c where
  nodeTypes := rfl
  denotations := rfl
  types ty entry h := by
    rw [keeping, Table.get?_filter] at h
    split at h
    · exact h
    · cases h
  declarations id d h := by
    rw [keeping, Table.get?_filter] at h
    split at h
    · exact h
    · cases h

/-- The crate with the type that one of its units lacks. -/
def wholeCrate : Crate :=
  { halfSoundCrate with
    types := ⟨⟨[(1, ⟨1, "ref", none, none, false⟩), (2, ⟨2, "int", none, none, false⟩)]⟩,
      halfSoundCrate.types.nodeTypes⟩ }

theorem wholeCrate_keeping : wholeCrate.keeping (fun ty => ty ≠ 2) (fun _ => true) = halfSoundCrate := rfl

theorem halfSound_within : halfSoundCrate.Within wholeCrate :=
  wholeCrate_keeping ▸ wholeCrate.within_keeping _ _

theorem wholeCrate_first :
    ∃ d, answer ⟨halfSound, wholeCrate, .standard⟩ (zeroedCall 2, invalidRef) = .ok (.matched d) := by
  refine ⟨_, Eq.trans ?_ halfSound_first⟩
  rcases halfSound_within.evaluate halfSound .standard (zeroedCall 2)
    (Rule.Declared.plain (.inl rfl)) with same | ⟨fault, h⟩
  · exact same.symm
  · cases halfSound_first.symm.trans h

theorem wholeCrate_halts : firstHalt? ⟨halfSound, wholeCrate, .standard⟩ (offers .standard halfSound.body) = none := by
  obtain ⟨d, first⟩ := wholeCrate_first
  have second : answer ⟨halfSound, wholeCrate, .standard⟩ (zeroedCall 4, invalidRef) =
      .ok (.declined "result_shape") := rfl
  rw [Registry.reachable_standard.offers_eq, halfSound_pairs]
  simp [firstHalt?, first, second, halt?]

theorem halfSound_offered : (zeroedCall 4, invalidRef) ∈ offers Registry.standard halfSound.body := by
  rw [Registry.reachable_standard.offers_eq, halfSound_pairs]
  simp

/-- Without the type 2 the unit is given up, and its finding is not kept. -/
theorem halfSound_contained :
    (∀ rule ∈ Registry.standard.rules, rule.Declared) ∧ halfSoundCrate.Within wholeCrate ∧
    (analyzeUnit .standard .standard wholeCrate .empty halfSound).gaveUp = false ∧
    ∃ fault, (analyzeUnit .standard .standard halfSoundCrate .empty halfSound).result =
      .ok [.ofMalformed halfSound fault] := by
  have declared : ∀ rule ∈ Registry.standard.rules, rule.Declared :=
    List.forall_mem_singleton.2 (.inl rfl)
  obtain ⟨ends, sound, -⟩ := unit_of_no_halt wholeCrate_halts .empty
  refine ⟨declared, halfSound_within, sound, ?_⟩
  rcases deletion_contained Registry.reachable_standard declared .standard halfSound_within halfSound .empty .empty
    with same | gaveUp
  · -- the smaller crate has no type for a call, so its unit is given up
    obtain ⟨fault, up⟩ := unit_meets_contradiction halfSound_not_stopped halfSound_offered halfSound_second
    have hd := (Findings.result_eq_ok_iff.1 (same.trans (Findings.result_eq_ok_iff.2 ⟨ends, rfl⟩))).2
    rw [Findings.gaveUp, ← hd, up] at sound
    cases sound
  · exact gaveUp

end ChainLint
