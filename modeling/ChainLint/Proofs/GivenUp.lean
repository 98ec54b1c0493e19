import ChainLint.Proofs.Exact
/-!
# Units that are given up

A unit whose offers do not halt gives what they find (`unit_of_no_halt`), and
nothing of that is an internal diagnosis, as a rule gives its own findings only
(`diagnose_of_run`). A unit whose first halt is a contradiction gives the
internal diagnosis for it (`unit_of_contradiction`). So the diagnoses of a unit
tell whether it was given up (`firstHalt?_eq_none_iff`).
-/

namespace ChainLint

/-! ## What a rule gives -/

/-- What a rule gives is its finding at the node, for what its guards found. -/
theorem diagnose_of_run {r : Rule} {e : Expr} {ctx : Context} {b : Bindings} {gs : List Guard} {d : Diagnosis}
    (h : r.run e ctx b gs = .ok (.matched d)) : ∃ found summary, d = r.diagnose e ctx.unit found summary := by
  induction gs generalizing b with
  | nil =>
    obtain ⟨summary, -, h⟩ := exists_of_bind_eq_ok h
    cases summary with
    | none => cases h
    | some summary =>
      cases h
      exact ⟨b, summary, rfl⟩
  | cons g rest ih =>
    rw [Rule.run] at h
    cases hv : g.check e ctx b with
    | error halt =>
      rw [hv] at h
      cases h
    | ok verdict =>
      rw [hv] at h
      cases verdict with
      | passed b' => exact ih h
      | failed => cases h
      | broken text fault => cases h

theorem diagnose_of_finding {ctx : Context} {p : Expr × Rule} {d : Diagnosis}
    (h : finding? (answer ctx p) = some d) : ∃ found summary, d = p.2.diagnose p.1 ctx.unit found summary := by
  unfold finding? at h
  split at h
  · next ha =>
    cases h
    exact diagnose_of_run ha
  · cases h

/-- A diagnosis that a rule gives is no internal one. -/
theorem internal_of_finding {ctx : Context} {p : Expr × Rule} {d : Diagnosis}
    (h : finding? (answer ctx p) = some d) : d.internal = false := by
  obtain ⟨found, summary, rfl⟩ := diagnose_of_finding h
  rfl

/-! ## What a unit gives -/

/-- Whether an analysis gave up its unit. -/
def Findings.gaveUp {ε : Type} (f : Findings ε) : Bool := f.diagnoses.any (·.internal)

theorem gaveUp_ofMalformed {f : Findings Guard.Fault} {u : CodeUnit} {fault : Malformed}
    (h : f.diagnoses = [.ofMalformed u fault]) : f.gaveUp = true := by
  rw [Findings.gaveUp, h]
  rfl

section
variable {registry : Registry} {paths : PathTable} {crate : Crate} {u : CodeUnit}

/-- A unit whose offers do not halt gives what they find. -/
theorem unit_of_no_halt (h : firstHalt? ⟨u, crate, paths⟩ (offers registry u.body) = none) (memory : Memory) :
    (analyzeUnit registry paths crate memory u).stopped = none ∧
    (analyzeUnit registry paths crate memory u).gaveUp = false ∧
    (analyzeUnit registry paths crate memory u).diagnoses =
      (offers registry u.body).filterMap fun p => finding? (answer ⟨u, crate, paths⟩ p) := by
  have hr : unitResult registry paths crate u =
      .ok ((offers registry u.body).filterMap fun p => finding? (answer ⟨u, crate, paths⟩ p)) := by
    rw [unitResult, ← firstHalt?, h]
    rfl
  have hd := diagnoses_of_unitResult hr memory
  refine ⟨analyzeUnit_stopped_iff.2 ⟨_, hr⟩, ?_, hd⟩
  rw [Findings.gaveUp, hd, List.any_eq_false]
  intro d hm
  obtain ⟨p, -, hf⟩ := List.mem_filterMap.1 hm
  rw [internal_of_finding hf]
  exact Bool.false_ne_true

/-- A unit whose offers meet a contradiction first gives the internal diagnosis for it. -/
theorem unit_of_contradiction {fault : Malformed}
    (h : firstHalt? ⟨u, crate, paths⟩ (offers registry u.body) = some (.malformed fault)) (memory : Memory) :
    (analyzeUnit registry paths crate memory u).stopped = none ∧
    (analyzeUnit registry paths crate memory u).gaveUp = true ∧
    (analyzeUnit registry paths crate memory u).diagnoses = [.ofMalformed u fault] := by
  have hr : unitResult registry paths crate u = .ok [.ofMalformed u fault] := by
    rw [unitResult, ← firstHalt?, h]
    rfl
  have hd := diagnoses_of_unitResult hr memory
  exact ⟨analyzeUnit_stopped_iff.2 ⟨_, hr⟩, gaveUp_ofMalformed hd, hd⟩

/-- A unit comes to its end and is not given up if and only if none of its offers halts. -/
theorem firstHalt?_eq_none_iff (memory : Memory) :
    firstHalt? ⟨u, crate, paths⟩ (offers registry u.body) = none ↔
      (analyzeUnit registry paths crate memory u).stopped = none ∧
      (analyzeUnit registry paths crate memory u).gaveUp = false := by
  constructor
  · intro h
    obtain ⟨hs, hg, -⟩ := unit_of_no_halt h memory
    exact ⟨hs, hg⟩
  · rintro ⟨hs, hg⟩
    cases h : firstHalt? ⟨u, crate, paths⟩ (offers registry u.body) with
    | none => rfl
    | some halt =>
      cases halt with
      | malformed fault => rw [(unit_of_contradiction h memory).2.1] at hg; cases hg
      | uncaught fault => exact absurd h (firstHalt?_ne_uncaught hs fault)

end

end ChainLint
