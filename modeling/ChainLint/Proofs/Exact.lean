import ChainLint.Proofs.Pool
/-!
# An analysis reports exactly the findings

`analysis_exact`: a unit gives the findings of its pairs of a node and a rule, in
document order and, at a node, in the order of registration. If some rule
meets a contradiction, the unit gives one internal diagnosis instead, for the
first of them. A crate gives what its units give, in their order, with any
number of workers.
-/

namespace ChainLint

/-- The nodes of a tree in document order, each with the registered rules that ask for its kind, in
the order of registration. -/
def Registry.pairs (registry : Registry) (body : Expr) : List (Expr × Rule) :=
  body.preorder.flatMap fun e =>
    (registry.rules.filter fun rule => rule.nodeKinds.contains e.kind).map fun rule => (e, rule)

theorem Registry.Reachable.offers_eq {registry : Registry} (h : registry.Reachable) (body : Expr) :
    offers registry body = registry.pairs body := by
  unfold offers pairs
  rw [Expr.walk_eq_preorder]
  simp only [h.rulesFor_eq]

theorem Registry.rule_of_pair {registry : Registry} {body : Expr} {p : Expr × Rule}
    (hp : p ∈ registry.pairs body) : p.2 ∈ registry.rules := by
  obtain ⟨e, -, hp⟩ := List.mem_flatMap.1 hp
  obtain ⟨rule, hrule, rfl⟩ := List.mem_map.1 hp
  exact (List.mem_filter.1 hrule).1

theorem Registry.Reachable.rule_of_offer {registry : Registry} (h : registry.Reachable) {body : Expr}
    {p : Expr × Rule} (hp : p ∈ offers registry body) : p.2 ∈ registry.rules := by
  rw [h.offers_eq] at hp
  exact Registry.rule_of_pair hp

theorem diagnoses_of_unitResult {registry : Registry} {paths : PathTable} {crate : Crate}
    {u : CodeUnit} {ds : List Diagnosis} (h : unitResult registry paths crate u = .ok ds)
    (memory : Memory) : (analyzeUnit registry paths crate memory u).diagnoses = ds := by
  rw [← analyzeUnit_result registry paths crate memory u] at h
  exact (Findings.result_eq_ok_iff.1 h).2

/-! ## The first halt decides -/

section
variable {registry : Registry} {paths : PathTable} {crate : Crate} {memory : Memory} {u : CodeUnit}

/-- The first halt among the offers of a unit. -/
def firstHalt? (ctx : Context) (ps : List (Expr × Rule)) : Option Halt :=
  ps.findSome? fun p => halt? (answer ctx p)

theorem firstHalt?_eq_some {ctx : Context} {ps : List (Expr × Rule)} {halt : Halt}
    (h : firstHalt? ctx ps = some halt) : ∃ p ∈ ps, answer ctx p = .error halt := by
  obtain ⟨p, hp, hh⟩ := List.exists_of_findSome?_eq_some h
  cases ha : answer ctx p with
  | ok outcome => simp [ha, halt?] at hh
  | error halt' => exact ⟨p, hp, by simpa [ha, halt?] using hh⟩

/-- An analysis that gives a result met no fault that ends it. -/
theorem firstHalt?_ne_uncaught (hs : (analyzeUnit registry paths crate memory u).stopped = none)
    (fault : Guard.Fault) :
    firstHalt? ⟨u, crate, paths⟩ (offers registry u.body) ≠ some (.uncaught fault) := by
  intro h
  have hr := analyzeUnit_result registry paths crate memory u
  rw [Findings.result_eq_ok_iff.2 ⟨hs, rfl⟩, unitResult, ← firstHalt?, h] at hr
  cases hr

/-- An analysis ends with a result if every fault of an expression counts as not holding. -/
theorem stopped_eq_none
    (hn : ∀ p ∈ offers registry u.body, ∀ fault, answer ⟨u, crate, paths⟩ p ≠ .error (.uncaught fault)) :
    (analyzeUnit registry paths crate memory u).stopped = none := by
  have hr := analyzeUnit_result registry paths crate memory u
  rw [unitResult, ← firstHalt?] at hr
  cases h : firstHalt? ⟨u, crate, paths⟩ (offers registry u.body) with
  | none => exact (Findings.result_eq_ok_iff.1 (hr.trans (by rw [h]; rfl))).1
  | some halt =>
    obtain ⟨p, hp, ha⟩ := firstHalt?_eq_some h
    cases halt with
    | malformed fault => exact (Findings.result_eq_ok_iff.1 (hr.trans (by rw [h]; rfl))).1
    | uncaught fault => exact absurd ha (hn p hp fault)

/-- Offers that meet no contradiction do not halt, if the analysis gives a result. -/
theorem firstHalt?_eq_none {ps rest : List (Expr × Rule)}
    (hs : (analyzeUnit registry paths crate memory u).stopped = none)
    (ho : offers registry u.body = ps ++ rest)
    (hn : ∀ p ∈ ps, ∀ fault, answer ⟨u, crate, paths⟩ p ≠ .error (.malformed fault)) :
    firstHalt? ⟨u, crate, paths⟩ ps = none := by
  cases h : firstHalt? ⟨u, crate, paths⟩ ps with
  | none => rfl
  | some halt =>
    obtain ⟨p, hp, ha⟩ := firstHalt?_eq_some h
    cases halt with
    | malformed fault => exact absurd ha (hn p hp fault)
    | uncaught fault =>
      refine absurd ?_ (firstHalt?_ne_uncaught hs fault)
      rw [firstHalt?] at h
      rw [firstHalt?, ho, List.findSome?_append, h, Option.some_or]

/-- A unit that meets no contradiction gives what its offers find. -/
theorem unit_without_contradiction
    (hs : (analyzeUnit registry paths crate memory u).stopped = none)
    (hn : ∀ p ∈ offers registry u.body, ∀ fault,
      answer ⟨u, crate, paths⟩ p ≠ .error (.malformed fault)) :
    (analyzeUnit registry paths crate memory u).diagnoses =
      (offers registry u.body).filterMap fun p => finding? (answer ⟨u, crate, paths⟩ p) := by
  have h := firstHalt?_eq_none hs (List.append_nil _).symm hn
  apply diagnoses_of_unitResult
  rw [unitResult, ← firstHalt?, h]
  rfl

/-- The first contradiction that the offers of a unit meet is all that the unit gives. -/
theorem unit_with_contradiction {before after : List (Expr × Rule)} {p : Expr × Rule}
    {fault : Malformed} (hs : (analyzeUnit registry paths crate memory u).stopped = none)
    (ho : offers registry u.body = before ++ p :: after)
    (hn : ∀ q ∈ before, ∀ fault, answer ⟨u, crate, paths⟩ q ≠ .error (.malformed fault))
    (ha : answer ⟨u, crate, paths⟩ p = .error (.malformed fault)) :
    (analyzeUnit registry paths crate memory u).diagnoses = [.ofMalformed u fault] := by
  have hb := firstHalt?_eq_none hs ho hn
  rw [firstHalt?] at hb
  have h : firstHalt? ⟨u, crate, paths⟩ (offers registry u.body) = some (.malformed fault) := by
    rw [firstHalt?, ho, List.findSome?_append, hb, Option.none_or, List.findSome?_cons, ha]
    rfl
  apply diagnoses_of_unitResult
  rw [unitResult, ← firstHalt?, h]
  rfl

/-- A unit that meets some contradiction gives one internal diagnosis. -/
theorem unit_meets_contradiction {p : Expr × Rule} {fault : Malformed}
    (hs : (analyzeUnit registry paths crate memory u).stopped = none)
    (hp : p ∈ offers registry u.body)
    (ha : answer ⟨u, crate, paths⟩ p = .error (.malformed fault)) :
    ∃ fault, (analyzeUnit registry paths crate memory u).diagnoses = [.ofMalformed u fault] := by
  cases h : firstHalt? ⟨u, crate, paths⟩ (offers registry u.body) with
  | none =>
    have hn := List.findSome?_eq_none_iff.1 h p hp
    rw [ha] at hn
    cases hn
  | some halt =>
    cases halt with
    | uncaught fault => exact absurd h (firstHalt?_ne_uncaught hs fault)
    | malformed fault =>
      refine ⟨fault, diagnoses_of_unitResult ?_ memory⟩
      rw [unitResult, ← firstHalt?, h]
      rfl

end

/-! ## Units and crates -/

/-- If no pair of a node and a rule of a unit meets a contradiction, the unit gives exactly what the
pairs find, in their order. Otherwise it gives one internal diagnosis, for the first pair that meets
one. With any number of workers, a crate gives what its units give one after the other. Runs that
a fault stops are left out. -/
theorem analysis_exact {registry : Registry} (hr : registry.Reachable) (paths : PathTable)
    (crate : Crate) :
    (∀ (memory : Memory) (u : CodeUnit),
      (analyzeUnit registry paths crate memory u).stopped = none →
        ((∀ p ∈ registry.pairs u.body, ∀ fault,
            p.2.evaluate p.1 ⟨u, crate, paths⟩ ≠ .error (.malformed fault)) →
          (analyzeUnit registry paths crate memory u).diagnoses =
            (registry.pairs u.body).filterMap
              fun p => finding? (p.2.evaluate p.1 ⟨u, crate, paths⟩)) ∧
        ∀ before p after fault, registry.pairs u.body = before ++ p :: after →
          (∀ q ∈ before, ∀ fault, q.2.evaluate q.1 ⟨u, crate, paths⟩ ≠ .error (.malformed fault)) →
          p.2.evaluate p.1 ⟨u, crate, paths⟩ = .error (.malformed fault) →
          (analyzeUnit registry paths crate memory u).diagnoses = [.ofMalformed u fault]) ∧
    ∀ (memory : Memory) (jobs : Int) (ds : List Diagnosis),
      CrateAnalysis registry paths crate memory jobs (.ok ds) ↔
        (∀ u ∈ crate.units, (analyzeUnit registry paths crate .empty u).stopped = none) ∧
        ds = crate.units.flatMap fun u => (analyzeUnit registry paths crate .empty u).diagnoses := by
  refine ⟨fun memory u hs => ?_, fun memory jobs ds => ?_⟩
  · rw [← hr.offers_eq]
    exact ⟨unit_without_contradiction hs, fun _ _ _ _ ho hn ha => unit_with_contradiction hs ho hn ha⟩
  · rw [crateAnalysis_iff, ← gather_result_eq_ok_iff (analyzeUnit registry paths crate .empty)]
    simp only [analyzeUnit_result, eq_comm]

/-! ## A crate with a unit that contradicts itself -/

/-- A call of a function that fills memory with zeros; its callee has the next number. -/
def zeroedCall (id : Int) : Expr :=
  { id, kind := "Call", callee := some { id := id + 1, kind := "Path", path := some "zeroed" } }

/-- A unit in which a node with a finding comes before one whose type is nowhere. -/
def halfSound : CodeUnit :=
  ⟨"half_sound", "a.rs", { id := 1, kind := "Block", children := [zeroedCall 2, zeroedCall 4] }⟩

/-- A unit in which no rule asks for a node. -/
def idle : CodeUnit := ⟨"idle", "b.rs", { id := 6, kind := "Block" }⟩

/-- A crate of both units. -/
def halfSoundCrate : Crate where
  name := "half_sound"
  units := [halfSound, idle]
  types := ⟨⟨[(1, ⟨1, "ref", none, none, false⟩)]⟩, ⟨[(2, 1), (4, 2)]⟩⟩
  declarations := ⟨[(7, { id := 7, path := ["core", "mem", "zeroed"] })]⟩
  denotations := ⟨[(3, { decl := some 7 }), (5, { decl := some 7 })]⟩

theorem idle_pairs : Registry.standard.pairs idle.body = [] := by
  simp [Registry.pairs, Expr.preorder_eq, Expr.parts, idle, Registry.standard, invalidRef]

theorem halfSound_pairs : Registry.standard.pairs halfSound.body =
    [(zeroedCall 2, invalidRef)] ++ (zeroedCall 4, invalidRef) :: [] := by
  simp [Registry.pairs, Expr.preorder_eq, Expr.parts, halfSound, zeroedCall, Registry.standard, invalidRef]

theorem halfSound_resolve :
    halfSoundCrate.resolve (zeroedCall 2).callee = .ok (some ⟨["core", "mem", "zeroed"]⟩) := by
  simp [Crate.resolve, zeroedCall, Crate.declarationOf, chase, halfSoundCrate, Table.get?, Table.find?,
    Declaration.isAlias, aliasKinds, traitMethodKind, pure, Except.pure, bind, Except.bind]

theorem halfSound_first :
    invalidRef.evaluate (zeroedCall 2) ⟨halfSound, halfSoundCrate, .standard⟩ =
      .ok (.matched (invalidRef.diagnose (zeroedCall 2) halfSound
        ⟨(zeroedCall 2).callee, some .reference, some (⟨["core", "mem", "zeroed"]⟩, some "zero_fill")⟩
        "null reference")) := by
  have hr : invalidRef.evaluate (zeroedCall 2) ⟨halfSound, halfSoundCrate, .standard⟩ =
      invalidRef.run (zeroedCall 2) ⟨halfSound, halfSoundCrate, .standard⟩
        ⟨(zeroedCall 2).callee, some .reference, none⟩ [.resolves] := rfl
  have ho : (zeroedCall 2).callee.or (zeroedCall 2).callee = (zeroedCall 2).callee := rfl
  rw [hr]
  simp only [Rule.run, Guard.check, ho, halfSound_resolve]
  rfl

theorem halfSound_second :
    invalidRef.evaluate (zeroedCall 4) ⟨halfSound, halfSoundCrate, .standard⟩ =
      .error (.malformed (.missingNodeType 4 2)) :=
  rfl

theorem halfSound_not_stopped :
    (analyzeUnit Registry.standard .standard halfSoundCrate .empty halfSound).stopped = none := by
  refine stopped_eq_none fun p hp fault => ?_
  rw [Registry.reachable_standard.offers_eq, halfSound_pairs, List.singleton_append] at hp
  rcases List.mem_cons.1 hp with rfl | hp
  · rw [answer, halfSound_first]
    intro h
    cases h
  · rw [List.mem_singleton.1 hp, answer, halfSound_second]
    intro h
    cases h

theorem idle_not_stopped :
    (analyzeUnit Registry.standard .standard halfSoundCrate .empty idle).stopped = none := by
  refine stopped_eq_none fun p hp => ?_
  rw [Registry.reachable_standard.offers_eq, idle_pairs] at hp
  cases hp

/-- Four workers give the internal diagnosis and nothing of the finding before it. -/
theorem halfSound_exact :
    Registry.standard.Reachable ∧
    CrateAnalysis Registry.standard .standard halfSoundCrate .empty 4
      (.ok [.ofMalformed halfSound (.missingNodeType 4 2)]) := by
  obtain ⟨unit, crate⟩ := analysis_exact Registry.reachable_standard .standard halfSoundCrate
  have hh := (unit .empty halfSound halfSound_not_stopped).2 _ _ _ _ halfSound_pairs
    (fun q hq fault => by
      rw [List.mem_singleton.1 hq, halfSound_first]
      nofun) halfSound_second
  have hi := (unit .empty idle idle_not_stopped).1 (fun p hp => by
    rw [idle_pairs] at hp
    cases hp)
  refine ⟨Registry.reachable_standard, (crate .empty 4 _).2 ⟨?_, ?_⟩⟩
  · rintro u hu
    rcases List.mem_cons.1 hu with rfl | hu
    · exact halfSound_not_stopped
    · rw [List.mem_singleton.1 hu]
      exact idle_not_stopped
  · simp only [halfSoundCrate, List.flatMap_cons, List.flatMap_nil] at hh hi ⊢
    rw [hh, hi, idle_pairs]
    rfl

end ChainLint
