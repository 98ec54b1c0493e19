import ChainLint.Proofs.GivenUp
import ChainLint.Proofs.Uncaught
import ChainLint.Proofs.Reordering
/-!
# Numbers are opaque

Rules without expressions see no number. In the twin of a crate they answer as
in the crate itself (`Crate.Twin.evaluate`), so a unit finds the same, or meets
the same contradiction under other numbers (`Crate.Twin.unit`). Two kinds of
twins come about in practice: the crate under other numbers, and the crate with
the entries of its tables in another order (`Crate.Reordered.twin`).
-/

namespace ChainLint

/-! ## Rules without expressions -/

/-- Whether a guard is an expression. -/
def Guard.isExpr : Guard → Bool
  | .expr .. => true
  | _ => false

/-- A rule made of guards other than expressions, all of which documents know. -/
structure Rule.Blind (r : Rule) : Prop where
  declared : r.Declared
  noExpr : ∀ g ∈ r.guards, g.isExpr = false

theorem Rule.Blind.isByteless {r : Rule} (h : r.Blind) : r.isByteless = true := by
  rw [Rule.isByteless, List.all_eq_true]
  intro g hg
  have hn := h.noExpr g hg
  cases g with
  | expr text term => cases hn
  | _ => rfl

/-! ## What is handed on under other numbers -/

/-- What was found, under other numbers. -/
def Bindings.renumber (f : Int → Int) (b : Bindings) : Bindings :=
  { b with callee := b.callee.map (Expr.renumber f) }

namespace Renaming

variable (ρ : Renaming)

/-- A halt under other numbers. -/
def halt : Halt → Halt
  | .malformed fault => .malformed (ρ.fault fault)
  | .uncaught fault => .uncaught fault

/-- The answer of a guard under other numbers. -/
def verdict : Except Halt Verdict → Except Halt Verdict
  | .ok (.passed b) => .ok (.passed (b.renumber ρ.node))
  | .ok v => .ok v
  | .error halt => .error (ρ.halt halt)

end Renaming

/-! ## Rules at twins -/

section
variable {ρ : Renaming} {c c' : Crate} {u : CodeUnit} {paths : PathTable} {e : Expr}

theorem Crate.Twin.check (h : c.Twin ρ c') {g : Guard} (hg : g.isCustom = false) (hn : g.isExpr = false)
    (b : Bindings) :
    g.check (e.renumber ρ.node) ⟨u.renumber ρ.node, c', paths⟩ (b.renumber ρ.node) =
      ρ.verdict (g.check e ⟨u, c, paths⟩ b) := by
  cases g with
  | callArity count =>
    simp only [Guard.check, Expr.renumber_kind, Expr.renumber_callee, Expr.renumber_args, Option.isSome_map,
      List.length_map]
    split <;> rfl
  | calleeIsPath =>
    simp only [Guard.check, Expr.renumber_callee]
    cases e.callee with
    | none => rfl
    | some callee =>
      simp only [Option.map_some, Expr.renumber_kind]
      split <;> rfl
  | resultShape shape =>
    simp only [Guard.check, Expr.renumber_id, h.shapeOf]
    cases c.types.shapeOf e.id with
    | error fault => rfl
    | ok actual =>
      simp only [Except.mapError, bind, Except.bind, pure, Except.pure]
      split <;> rfl
  | resolves =>
    have hc : (b.renumber ρ.node).callee.or (e.renumber ρ.node).callee =
        (b.callee.or e.callee).map (Expr.renumber ρ.node) := by
      simp only [Bindings.renumber, Expr.renumber_callee]
      cases b.callee <;> rfl
    simp only [Guard.check, hc, h.resolve]
    cases c.resolve (b.callee.or e.callee) with
    | error fault => rfl
    | ok path => cases path <;> rfl
  | expr text term => cases hn
  | custom name holds => cases hg

theorem location_renumber (f : Int → Int) : (e.renumber f).location (u.renumber f) = e.location u := by
  simp only [Expr.location, Expr.renumber_span, CodeUnit.renumber]

/-- A diagnosis tells no number. -/
theorem diagnose_renumber (r : Rule) (f : Int → Int) (b : Bindings) (summary : String) :
    r.diagnose (e.renumber f) (u.renumber f) (b.renumber f) summary = r.diagnose e u b summary := by
  have path : ((b.callee.map (Expr.renumber f)).bind fun e => e.path) = b.callee.bind fun e => e.path := by
    cases b.callee with
    | none => rfl
    | some callee => exact Expr.renumber_path f callee
  have extras : Rule.extras (b.renumber f) (e.renumber f) = Rule.extras b e := by
    simp only [Rule.extras, Bindings.renumber, Expr.renumber_text, path]
  simp only [Rule.diagnose, location_renumber, extras]
  rfl

theorem conclude_twin {r : Rule} (hr : r.classifier.isCustom = false) (b : Bindings) :
    r.conclude (e.renumber ρ.node) ⟨u.renumber ρ.node, c', paths⟩ (b.renumber ρ.node) =
      (r.conclude e ⟨u, c, paths⟩ b).mapError ρ.halt := by
  have hs : ∃ summary, r.classifier.summary? (e.renumber ρ.node) ⟨u.renumber ρ.node, c', paths⟩
        (b.renumber ρ.node) = .ok summary ∧ r.classifier.summary? e ⟨u, c, paths⟩ b = .ok summary := by
    cases hk : r.classifier with
    | byTag summaries => exact ⟨_, rfl, rfl⟩
    | constant summary => exact ⟨_, rfl, rfl⟩
    | custom summary =>
      rw [hk] at hr
      cases hr
  obtain ⟨summary, h', h⟩ := hs
  rw [Rule.conclude, Rule.conclude, h', h]
  cases summary with
  | none => rfl
  | some summary => exact congrArg (fun d => Except.ok (Outcome.matched d)) (diagnose_renumber r ρ.node b summary)

/-- The chain of guards goes the same way at the twin. -/
theorem Crate.Twin.run (h : c.Twin ρ c') {r : Rule} (hr : r.classifier.isCustom = false) {gs : List Guard}
    (hgs : ∀ g ∈ gs, g.isCustom = false ∧ g.isExpr = false) (b : Bindings) :
    r.run (e.renumber ρ.node) ⟨u.renumber ρ.node, c', paths⟩ (b.renumber ρ.node) gs =
      (r.run e ⟨u, c, paths⟩ b gs).mapError ρ.halt := by
  induction gs generalizing b with
  | nil => exact conclude_twin hr b
  | cons g rest ih =>
    obtain ⟨⟨hg, hn⟩, hrest⟩ := List.forall_mem_cons.1 hgs
    rw [Rule.run, Rule.run, h.check hg hn]
    rcases g.check e ⟨u, c, paths⟩ b with halt | verdict
    · rfl
    · cases verdict with
      | passed b' => exact ih hrest b'
      | failed => rfl
      | broken text fault => rfl

theorem Crate.Twin.evaluate (h : c.Twin ρ c') {r : Rule} (hr : r.Blind) :
    r.evaluate (e.renumber ρ.node) ⟨u.renumber ρ.node, c', paths⟩ =
      (r.evaluate e ⟨u, c, paths⟩).mapError ρ.halt :=
  h.run hr.declared.plain.classifier (fun g hg => ⟨hr.declared.plain.guards g hg, hr.noExpr g hg⟩) {}

end

/-! ## Units of twins -/

section
variable {ρ : Renaming} {c c' : Crate} {registry : Registry}

/-- The pairs of a tree under other numbers are its pairs under other numbers. -/
theorem pairs_renumber (registry : Registry) (f : Int → Int) (body : Expr) :
    registry.pairs (body.renumber f) = (registry.pairs body).map fun p => (p.1.renumber f, p.2) := by
  simp only [Registry.pairs, Expr.renumber_preorder, List.flatMap_map, List.map_flatMap, Expr.renumber_kind,
    List.map_map]
  rfl

/-- The offers of the twin find the same, and halt where those of the unit do. -/
theorem Crate.Twin.offered (h : c.Twin ρ c') (hr : registry.Reachable)
    (hb : ∀ rule ∈ registry.rules, rule.Blind) (paths : PathTable) (u : CodeUnit) :
    let ctx : Context := ⟨u, c, paths⟩
    let ctx' : Context := ⟨u.renumber ρ.node, c', paths⟩
    firstHalt? ctx' (offers registry ctx'.unit.body) = (firstHalt? ctx (offers registry u.body)).map ρ.halt ∧
      (offers registry ctx'.unit.body).filterMap (fun p => finding? (answer ctx' p)) =
        (offers registry u.body).filterMap fun p => finding? (answer ctx p) := by
  intro ctx ctx'
  have answers : (offers registry ctx'.unit.body).map (answer ctx') =
      ((offers registry u.body).map (answer ctx)).map (Except.mapError ρ.halt) := by
    have body : ctx'.unit.body = u.body.renumber ρ.node := rfl
    rw [hr.offers_eq, hr.offers_eq, body, pairs_renumber, List.map_map, List.map_map]
    refine List.map_congr_left fun p hp => ?_
    exact h.evaluate (hb p.2 (Registry.rule_of_pair hp))
  have finding : finding? ∘ Except.mapError ρ.halt = finding? := by
    funext r
    cases r <;> rfl
  have halt : halt? ∘ Except.mapError ρ.halt = fun r => (halt? r).map ρ.halt := by
    funext r
    cases r <;> rfl
  constructor
  · have first : ∀ ctx ps, firstHalt? ctx ps = (ps.map (answer ctx)).findSome? halt? := fun ctx ps => by
      rw [List.findSome?_map]
      rfl
    rw [first, first, answers, List.findSome?_map, halt, List.map_findSome?]
    rfl
  · have found : ∀ ctx (ps : List (Expr × Rule)),
        ps.filterMap (fun p => finding? (answer ctx p)) = (ps.map (answer ctx)).filterMap finding? := fun ctx ps => by
      rw [List.filterMap_map]
      rfl
    rw [found, found, answers, List.filterMap_map, finding]

/-- A unit comes to its end in the twin as well. It is given up in both crates or in none: in both for
the same contradiction under other numbers, or else it gives the same. -/
theorem Crate.Twin.unit (h : c.Twin ρ c') (hr : registry.Reachable) (hb : ∀ rule ∈ registry.rules, rule.Blind)
    (paths : PathTable) (u : CodeUnit) (memory memory' : Memory) :
    let before := analyzeUnit registry paths c memory u
    let after := analyzeUnit registry paths c' memory' (u.renumber ρ.node)
    before.stopped = none ∧ after.stopped = none ∧
      ((before.gaveUp = false ∧ after.diagnoses = before.diagnoses) ∨
        ∃ fault, before.diagnoses = [.ofMalformed u fault] ∧
          after.diagnoses = [.ofMalformed (u.renumber ρ.node) (ρ.fault fault)]) := by
  intro before after
  obtain ⟨halts, finds⟩ := h.offered hr hb paths u
  -- the first halt decides in both crates, and it stands at the same place
  cases hs : firstHalt? ⟨u, c, paths⟩ (offers registry u.body) with
  | none =>
    rw [hs] at halts
    obtain ⟨stopped, sound, found⟩ := unit_of_no_halt hs memory
    obtain ⟨stopped', -, found'⟩ := unit_of_no_halt halts memory'
    exact ⟨stopped, stopped', .inl ⟨sound, (found'.trans finds).trans found.symm⟩⟩
  | some halt =>
    rw [hs] at halts
    cases halt with
    | malformed fault =>
      obtain ⟨stopped, -, given⟩ := unit_of_contradiction hs memory
      obtain ⟨stopped', -, given'⟩ := unit_of_contradiction halts memory'
      exact ⟨stopped, stopped', .inr ⟨fault, given, given'⟩⟩
    | uncaught fault =>
      -- rules without expressions look for no number among bytes
      have stopped : before.stopped = none := analyzeUnit_stopped_iff.2 <|
        exists_unitResult hr (fun rule hm => ⟨(hb rule hm).declared, (hb rule hm).isByteless⟩) paths c u
      exact absurd hs (firstHalt?_ne_uncaught stopped fault)

end

theorem Renaming.same_fault (fault : Malformed) : Renaming.same.fault fault = fault := by
  cases fault <;> rfl

theorem renumber_same_unit (u : CodeUnit) : u.renumber Renaming.same.node = u := by
  have body : u.body.renumber Renaming.same.node = u.body := Expr.renumber_same u.body
  rw [CodeUnit.renumber, body]

/-- Under other numbers of nodes, types and declarations, a unit is given up if and only if it was, and
then for the same contradiction under other numbers. Every other unit gives the same. With the
tables of types, of declarations and of implementations in another order, every unit gives the
same. That needs tables that list no key twice, as those of every crate that was loaded do. -/
theorem numbers_are_opaque {registry : Registry} (hr : registry.Reachable)
    (hb : ∀ rule ∈ registry.rules, rule.Blind) (paths : PathTable) :
    (∀ (ρ : Renaming) (c : Crate) (u : CodeUnit) (memory memory' : Memory),
      let before := analyzeUnit registry paths c memory u
      let after := analyzeUnit registry paths (ρ.crate c) memory' (u.renumber ρ.node)
      before.stopped = none ∧ after.stopped = none ∧ (after.gaveUp = true ↔ before.gaveUp = true) ∧
        (before.gaveUp = false → after.diagnoses = before.diagnoses) ∧
        (before.gaveUp = true → ∃ fault, before.diagnoses = [.ofMalformed u fault] ∧
          after.diagnoses = [.ofMalformed (u.renumber ρ.node) (ρ.fault fault)])) ∧
    (∀ c c' : Crate, c.DistinctKeys → c.Reordered c' → ∀ (u : CodeUnit) (memory memory' : Memory),
      let before := analyzeUnit registry paths c memory u
      let after := analyzeUnit registry paths c' memory' u
      before.stopped = none ∧ after.stopped = none ∧ after.diagnoses = before.diagnoses) ∧
    ∀ (origin : String) (doc : Datum) (c : Crate), Dump.crate origin doc = .ok c → c.DistinctKeys := by
  refine ⟨fun ρ c u memory memory' => ?_, fun c c' hn reordered u memory memory' => ?_,
    fun origin doc c => Dump.distinctKeys_of_load⟩
  · obtain ⟨hs, hs', ⟨hg, hd⟩ | ⟨fault, hd, hd'⟩⟩ := (ρ.twin_crate c).unit hr hb paths u memory memory'
    · have same : (analyzeUnit registry paths (ρ.crate c) memory' (u.renumber ρ.node)).gaveUp =
          (analyzeUnit registry paths c memory u).gaveUp := by
        rw [Findings.gaveUp, Findings.gaveUp, hd]
      exact ⟨hs, hs', by rw [same], fun _ => hd, fun h => absurd (hg.symm.trans h) Bool.false_ne_true⟩
    · have up := gaveUp_ofMalformed hd
      exact ⟨hs, hs', iff_of_true (gaveUp_ofMalformed hd') up,
        fun h => absurd (h.symm.trans up) Bool.false_ne_true, fun _ => ⟨fault, hd, hd'⟩⟩
  · have h := (reordered.twin hn).unit hr hb paths u memory memory'
    rw [renumber_same_unit] at h
    obtain ⟨hs, hs', ⟨-, hd⟩ | ⟨fault, hd, hd'⟩⟩ := h
    · exact ⟨hs, hs', hd⟩
    · rw [Renaming.same_fault] at hd'
      exact ⟨hs, hs', hd'.trans hd.symm⟩

/-! ## A crate with a unit that contradicts itself -/

/-- Numbers of nodes, types and declarations that are ten, twenty and thirty higher. -/
def higher : Renaming where
  node n := n + 10
  type n := n + 20
  decl n := n + 30
  node_injective _ _ h := (Int.add_left_inj _).1 h
  type_injective _ _ h := (Int.add_left_inj _).1 h
  decl_injective _ _ h := (Int.add_left_inj _).1 h

/-- The same crate with one more type, which comes last. -/
def wideCrate : Crate :=
  { halfSoundCrate with
    types := ⟨⟨[(1, ⟨1, "ref", none, none, false⟩), (3, ⟨3, "int", none, none, false⟩)]⟩,
      halfSoundCrate.types.nodeTypes⟩ }

/-- The crate with the additional type first. -/
def wideCrateTurned : Crate :=
  { halfSoundCrate with
    types := ⟨⟨[(3, ⟨3, "int", none, none, false⟩), (1, ⟨1, "ref", none, none, false⟩)]⟩,
      halfSoundCrate.types.nodeTypes⟩ }

theorem wideCrate_reordered : wideCrate.DistinctKeys ∧ wideCrate.Reordered wideCrateTurned := by
  refine ⟨⟨by decide, by decide, ?_⟩, rfl, rfl, .swap _ _ _, rfl, rfl, wideCrate.declarations.entries, ?_, .refl _⟩
  · exact List.forall_mem_singleton.2 List.nodup_nil
  · exact .cons ⟨[], .refl _, rfl⟩ .nil

/-- The broken unit stays broken under higher numbers, and the order of two types does not matter. -/
theorem halfSound_opaque :
    (∀ rule ∈ Registry.standard.rules, rule.Blind) ∧
    (∃ fault, (analyzeUnit .standard .standard halfSoundCrate .empty halfSound).diagnoses =
        [.ofMalformed halfSound fault] ∧
      (analyzeUnit .standard .standard (higher.crate halfSoundCrate) .empty
        (halfSound.renumber higher.node)).diagnoses =
          [.ofMalformed (halfSound.renumber higher.node) (higher.fault fault)]) ∧
    wideCrate.DistinctKeys ∧ wideCrate.Reordered wideCrateTurned ∧
    (analyzeUnit .standard .standard wideCrateTurned .empty halfSound).diagnoses =
      (analyzeUnit .standard .standard wideCrate .empty halfSound).diagnoses := by
  have blind : ∀ rule ∈ Registry.standard.rules, rule.Blind :=
    List.forall_mem_singleton.2 ⟨.inl rfl, by decide⟩
  obtain ⟨distinct, reordered⟩ := wideCrate_reordered
  have up : (analyzeUnit .standard .standard halfSoundCrate .empty halfSound).gaveUp = true := by
    have offered : (zeroedCall 4, invalidRef) ∈ offers Registry.standard halfSound.body := by
      rw [Registry.reachable_standard.offers_eq, halfSound_pairs]
      simp
    obtain ⟨fault, h⟩ := unit_meets_contradiction halfSound_not_stopped offered halfSound_second
    exact gaveUp_ofMalformed h
  obtain ⟨renamed, turned, -⟩ := numbers_are_opaque Registry.reachable_standard blind .standard
  exact ⟨blind, (renamed higher halfSoundCrate halfSound .empty .empty).2.2.2.2 up, distinct, reordered,
    (turned wideCrate wideCrateTurned distinct reordered halfSound .empty .empty).2.2⟩

end ChainLint
