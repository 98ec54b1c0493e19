import ChainLint.Proofs.GuardChain
import ChainLint.Proofs.Subexpressions
import Mathlib.Data.List.Nodup
/-!
# The order of guards

`finding_any_order`: where expressions read the node and the unit only, the
order of the guards of a rule does not matter for a finding. Such a guard passes
or not whatever was found before it, so all pass in a row if and only if each
passes on its own (`exists_passes_iff`). What they find hangs on their kinds
(`Passes.eq_foundBy`), and so do the summary and the finding.
-/

namespace ChainLint

/-- A guard that documents know and whose expression, if it has one, reads the node and the unit only. -/
def Guard.ReadsNodeAndUnit : Guard → Prop
  | .expr _ (some t) => ∀ id, .name id ∈ t.subs → id = "node" ∨ id = "unit"
  | .custom .. => False
  | _ => True

theorem Guard.ReadsNodeAndUnit.isCustom_eq {g : Guard} (h : g.ReadsNodeAndUnit) : g.isCustom = false := by
  cases g with
  | custom name holds => exact h.elim
  | _ => rfl

section
variable {e : Expr} {ctx : Context} {b b' : Bindings} {g : Guard} {gs gs' : List Guard}

/-- The node and the unit have the same values whatever was found. -/
theorem agreeOn_scope {t : Guard.Term} (h : ∀ id, .name id ∈ t.subs → id = "node" ∨ id = "unit") (u : CodeUnit) :
    (b.scope e u).AgreeOn (b'.scope e u) t.subs := by
  intro id hm
  rcases h id hm with rfl | rfl
  · rfl
  · rfl

/-- Such a guard passes whatever was found before, as long as no other callee is bound. -/
theorem passes_whatever (hg : g.ReadsNodeAndUnit) (hb : b.OwnCallee e) (hb' : b'.OwnCallee e)
    (h : ∃ found, g.check e ctx b = .ok (.passed found)) : ∃ found, g.check e ctx b' = .ok (.passed found) := by
  simp only [check_passed_iff hg.isCustom_eq] at h ⊢
  obtain ⟨found, h⟩ := h
  cases h with
  | callArity h => exact ⟨_, .callArity h⟩
  | calleeIsPath hc isPath => exact ⟨_, .calleeIsPath hc isPath⟩
  | resultShape h => exact ⟨_, .resultShape h⟩
  | resolves h =>
    rw [hb.or_eq, ← hb'.or_eq] at h
    exact ⟨_, .resolves h⟩
  | blank => exact ⟨_, .blank⟩
  | @expr _ t _ h holds =>
    have same : (b.scope e ctx.unit).AgreeOn (b'.scope e ctx.unit) t.subs := agreeOn_scope hg ctx.unit
    rw [Guard.eval_congr t same] at h
    exact ⟨_, .expr h holds⟩

/-- Such guards pass in a row if and only if each of them passes on its own. -/
theorem exists_passes_iff (hgs : ∀ g ∈ gs, g.ReadsNodeAndUnit) (hb : b.OwnCallee e) :
    (∃ b', Passes e ctx b gs b') ↔ ∀ g ∈ gs, ∃ found, g.check e ctx {} = .ok (.passed found) := by
  -- on the guards: what the first one leaves bound does not matter to those after it
  have none : ({} : Bindings).OwnCallee e := .inl rfl
  induction gs generalizing b with
  | nil => exact ⟨fun _ => nofun, fun _ => ⟨b, .nil b⟩⟩
  | cons g rest ih =>
    obtain ⟨hg, hrest⟩ := List.forall_mem_cons.1 hgs
    rw [List.forall_mem_cons]
    constructor
    · rintro ⟨b', h⟩
      cases h with
      | cons hc hp =>
        have own := ownCallee_of_check hg.isCustom_eq hb hc
        exact ⟨passes_whatever hg hb none ⟨_, hc⟩, (ih hrest own).1 ⟨b', hp⟩⟩
    · rintro ⟨alone, later⟩
      obtain ⟨found, hc⟩ := passes_whatever hg none hb alone
      obtain ⟨b', hp⟩ := (ih hrest (ownCallee_of_check hg.isCustom_eq hb hc)).2 later
      exact ⟨b', .cons hc hp⟩

/-- Where such guards pass in a row, they do so in any order. -/
theorem passes_perm (hgs : ∀ g ∈ gs, g.ReadsNodeAndUnit) (perm : gs.Perm gs') :
    (∃ b', Passes e ctx {} gs b') ↔ ∃ b', Passes e ctx {} gs' b' := by
  have hgs' : ∀ g ∈ gs', g.ReadsNodeAndUnit := fun g hm => hgs g (perm.mem_iff.2 hm)
  rw [exists_passes_iff hgs (.inl rfl), exists_passes_iff hgs' (.inl rfl)]
  simp only [perm.mem_iff]

end

/-- A rule gives the same finding, or none, in any order of its guards. Where it gives none, orders
differ in the step that is named and in whether a contradiction of the crate or a test for what is no
byte is met. -/
theorem finding_any_order {r : Rule} {gs : List Guard} {summaries : Table String String} (perm : r.guards.Perm gs)
    (hc : r.classifier = .byTag summaries) (hgs : ∀ g ∈ r.guards, g.ReadsNodeAndUnit) (e : Expr) (ctx : Context) :
    let reordered : Rule := { r with guards := gs }
    (∀ d, r.evaluate e ctx = .ok (.matched d) ↔ reordered.evaluate e ctx = .ok (.matched d)) ∧
    ((∀ d, r.evaluate e ctx ≠ .ok (.matched d)) →
      (∃ step, reordered.evaluate e ctx = .ok (.declined step)) ∨
      (∃ text fault, reordered.evaluate e ctx = .ok (.broken text fault)) ∨
      (∃ fault, reordered.evaluate e ctx = .error (.malformed fault)) ∨
      reordered.evaluate e ctx = .error (.uncaught .noByte) ∧ reordered.AsksNoByte e ctx) := by
  intro reordered
  have plain : ∀ g ∈ r.guards, g.isCustom = false := fun g hm => (hgs g hm).isCustom_eq
  have plain' : ∀ g ∈ gs, g.isCustom = false := fun g hm => plain g (perm.mem_iff.2 hm)
  have kinds : ∀ kind, kind ∈ kindsOf r.guards ↔ kind ∈ kindsOf gs :=
    fun kind => (perm.filterMap Guard.kind?).mem_iff
  have found : ∀ d, r.evaluate e ctx = .ok (.matched d) ↔ reordered.evaluate e ctx = .ok (.matched d) := by
    intro d
    rw [evaluate_matched_iff plain hc, evaluate_matched_iff (r := reordered) plain' hc, passes_perm hgs perm,
      foundBy_congr kinds, kinds]
    rfl
  refine ⟨found, fun nothing => ?_⟩
  cases he : reordered.evaluate e ctx with
  | ok outcome =>
    cases outcome with
    | matched d => exact absurd ((found d).2 he) (nothing d)
    | declined step => exact .inl ⟨step, rfl⟩
    | broken text fault => exact .inr (.inl ⟨text, fault, rfl⟩)
  | error halt =>
    cases halt with
    | malformed fault => exact .inr (.inr (.inl ⟨fault, rfl⟩))
    | uncaught fault =>
      have hr : reordered.Plain := ⟨plain', by rw [show reordered.classifier = _ from hc]; rfl⟩
      obtain ⟨rfl, asks⟩ := (evaluate_uncaught_iff hr).1 he
      exact .inr (.inr (.inr ⟨rfl, asks⟩))

/-! ## Two orders -/

/-- An expression that asks whether a node has no arguments. -/
def noArgsTerm : Guard.Term :=
  .compare (.call (.name "len") [.attribute (.name "node") "args"] false) [(.eq, .literal (.int 0))]

/-- A test that a node has no arguments. -/
def noArgsTest : Guard := .expr "len(node.args) == 0" (some noArgsTerm)

/-- A rule that resolves the callee after the other guards. -/
def patientRule : Rule where
  name := "patient"
  category := "style"
  nodeKinds := ["Call"]
  nodeKinds_nodup := List.nodup_singleton _
  guards := [.calleeIsPath, noArgsTest, .resolves]
  classifier := .byTag ⟨[("zero_fill", "zeros")]⟩
  severity := "warning"

theorem noArgsTest_readsNodeAndUnit : noArgsTest.ReadsNodeAndUnit := by
  intro id hm
  simp [noArgsTerm, Guard.Term.subs, Guard.Term.subsAll, Guard.Term.subsLinks, Guard.builtin?,
    Guard.Builtin.ofName?] at hm
  exact .inl hm

theorem noArgsTest_passes (ctx : Context) (b : Bindings) :
    noArgsTest.check (zeroedCall 2) ctx b = .ok (.passed b) := by
  have isPublic : Guard.isPrivate "args" = false := by decide +kernel
  have holds : Guard.eval (b.scope (zeroedCall 2) ctx.unit) noArgsTerm = .ok (.bool true) := by
    simp only [noArgsTerm, Guard.eval, Guard.evalAll, Guard.evalChain, isPublic]
    rfl
  rw [noArgsTest, Guard.check, Guard.checkTerm, holds]
  rfl

theorem patientRule_evaluate :
    patientRule.evaluate (zeroedCall 2) ⟨halfSound, halfSoundCrate, .standard⟩ =
      .ok (.matched (patientRule.diagnose (zeroedCall 2) halfSound
        ⟨(zeroedCall 2).callee, none, some (⟨["core", "mem", "zeroed"]⟩, some "zero_fill")⟩ "zeros")) := by
  have late : patientRule.evaluate (zeroedCall 2) ⟨halfSound, halfSoundCrate, .standard⟩ =
      patientRule.run (zeroedCall 2) ⟨halfSound, halfSoundCrate, .standard⟩
        { callee := (zeroedCall 2).callee } [noArgsTest, .resolves] := rfl
  have bound : (zeroedCall 2).callee.or (zeroedCall 2).callee = (zeroedCall 2).callee := rfl
  rw [late]
  simp only [Rule.run, noArgsTest_passes]
  simp only [Guard.check, bound, halfSound_resolve]
  rfl

/-- Resolving the callee first leads to the same finding. -/
theorem patientRule_any_order :
    let eager : Rule := { patientRule with guards := [.resolves, noArgsTest, .calleeIsPath] }
    patientRule.guards.Perm eager.guards ∧ (∀ g ∈ patientRule.guards, g.ReadsNodeAndUnit) ∧
    eager.evaluate (zeroedCall 2) ⟨halfSound, halfSoundCrate, .standard⟩ =
      .ok (.matched (patientRule.diagnose (zeroedCall 2) halfSound
        ⟨(zeroedCall 2).callee, none, some (⟨["core", "mem", "zeroed"]⟩, some "zero_fill")⟩ "zeros")) := by
  have perm : patientRule.guards.Perm [.resolves, noArgsTest, .calleeIsPath] :=
    (List.reverse_perm patientRule.guards).symm
  have reads : ∀ g ∈ patientRule.guards, g.ReadsNodeAndUnit := by
    intro g hm
    simp only [patientRule, List.mem_cons, List.not_mem_nil, or_false] at hm
    rcases hm with rfl | rfl | rfl
    · trivial
    · exact noArgsTest_readsNodeAndUnit
    · trivial
  exact ⟨perm, reads, ((finding_any_order perm rfl reads _ _).1 _).1 patientRule_evaluate⟩

end ChainLint
