import ChainLint.Proofs.Uncaught
import ChainLint.Schedule
import Mathlib.Data.List.Nodup
/-!
# Every order of the units gives the same

What units share never flows into an answer: a term that was kept is the one
that reading gives (`analyzeUnitShared_fst`), and the memory of reports only
decides whether a warning is repeated. So a unit gives the same, and reports
the same broken expressions, wherever it stands in the order
(`analyzeInOrder_sums`).
-/

namespace ChainLint

/-! ## What is shared does not show in answers -/

/-- The term of an expression is the one that its text gives. -/
def Guard.IsRead : Guard → Prop
  | .expr text term => Guard.ofText text = .ok term
  | _ => True

theorem isRead_of_guard {kind : String} {value : Datum} {g : Guard}
    (h : Rule.guard kind value = .ok g) : g.IsRead := by
  unfold Rule.guard at h
  split at h
  · split at h <;> cases h
    trivial
  · split at h <;> cases h
    trivial
  · split at h <;> cases h
    trivial
  · split at h <;> cases h
    trivial
  · dsimp only at h
    split at h
    · next ht =>
      cases h
      exact ht
    · cases h
  · cases h

theorem Rule.Declared.isRead {r : Rule} (h : r.Declared) : ∀ g ∈ r.guards, g.IsRead := by
  rcases h with rfl | ⟨origin, entries, h⟩
  · simp [invalidRef, Guard.IsRead]
  · intro g hg
    obtain ⟨kind, value, h⟩ := (guards_of_ofEntries h).1 g hg
    exact isRead_of_guard h

section
variable {e : Expr} {ctx : Context} {memory : Memory}

theorem checkShared_fst {g : Guard} (hg : g.IsRead) (b : Bindings) (c : Guard.Compiled) :
    (g.checkShared e ctx b c).1 = g.check e ctx b := by
  cases g with
  | expr text term =>
    have ht : (c.ofText text).1 = .ok term := (c.ofText_fst text).trans hg
    simp only [Guard.checkShared, Guard.check]
    split
    · next h =>
      rw [h] at ht
      cases ht
      rfl
    · next h =>
      rw [h] at ht
      cases ht
  | _ => rfl

theorem runShared_fst (r : Rule) {gs : List Guard} (hgs : ∀ g ∈ gs, g.IsRead) (b : Bindings)
    (c : Guard.Compiled) : (r.runShared e ctx b c gs).1 = r.run e ctx b gs := by
  induction gs generalizing b c with
  | nil => rfl
  | cons g rest ih =>
    obtain ⟨hg, hrest⟩ := List.forall_mem_cons.1 hgs
    rw [Rule.runShared, Rule.run, ← checkShared_fst hg b c]
    rcases g.checkShared e ctx b c with ⟨halt | verdict, c'⟩
    · rfl
    · cases verdict with
      | passed b' => exact ih hrest b' c'
      | failed => rfl
      | broken text fault => rfl

theorem evaluateShared_fst {r : Rule} (hr : ∀ g ∈ r.guards, g.IsRead) (c : Guard.Compiled) :
    (r.evaluateShared e ctx c).1 = r.evaluate e ctx :=
  runShared_fst r hr {} c

theorem visitShared_fst {ps : List (Expr × Rule)} (hps : ∀ p ∈ ps, ∀ g ∈ p.2.guards, g.IsRead)
    (c : Guard.Compiled) : (visitShared ctx memory c ps).1 = visit ctx memory ps := by
  induction ps generalizing memory c with
  | nil => rfl
  | cons p rest ih =>
    obtain ⟨e, rule⟩ := p
    obtain ⟨hp, hrest⟩ := List.forall_mem_cons.1 hps
    simp only [visitShared, visit]
    rw [← evaluateShared_fst hp c]
    rcases rule.evaluateShared e ctx c with ⟨halt | outcome, c'⟩
    · rfl
    · cases outcome with
      | matched d => simp only [ih hrest c']
      | declined step => exact ih hrest c'
      | broken text fault => simp only [ih hrest c']

theorem analyzeUnit_eq (registry : Registry) (paths : PathTable) (crate : Crate) (memory : Memory)
    (u : CodeUnit) :
    analyzeUnit registry paths crate memory u =
      (visit ⟨u, crate, paths⟩ memory (offers registry u.body)).ofOffers crate u := rfl

/-- A unit gives and tells the same whatever expressions were read before. -/
theorem analyzeUnitShared_fst {registry : Registry} (hr : registry.Reachable)
    (hd : ∀ rule ∈ registry.rules, rule.Declared) (paths : PathTable) (crate : Crate) (s : Shared)
    (u : CodeUnit) :
    (analyzeUnitShared registry paths crate s u).1 = analyzeUnit registry paths crate s.memory u := by
  have hv : (visitShared ⟨u, crate, paths⟩ s.memory s.compiled (offers registry u.body)).1 =
      visit ⟨u, crate, paths⟩ s.memory (offers registry u.body) := by
    refine visitShared_fst (fun p hp => ?_) s.compiled
    exact (hd p.2 (hr.rule_of_offer hp)).isRead
  rw [analyzeUnit_eq, ← hv]
  rfl

end

/-! ## What a unit reports -/

/-- The name of the rule and the text of the expression, if an answer is that the expression has no
value. -/
def brokenKey? (rule : Rule) : Except Halt Outcome → Option (String × String)
  | .ok (.broken text _) => some (rule.name, text)
  | _ => none

/-- The broken expressions that offers meet before the first halt. -/
def brokenKeys (ctx : Context) (ps : List (Expr × Rule)) : List (String × String) :=
  (ps.takeWhile fun p => (halt? (answer ctx p)).isNone).filterMap fun p => brokenKey? p.2 (answer ctx p)

theorem mem_report {memory : Memory} {rule text : String} {fault : Guard.Fault} {key : String × String} :
    key ∈ (memory.report rule text fault).2.reported ↔ key ∈ memory.reported ∨ key = (rule, text) := by
  unfold Memory.report
  split
  · next h =>
    have hm : (rule, text) ∈ memory.reported := List.contains_iff_mem.1 h
    constructor
    · exact .inl
    · rintro (h | rfl)
      · exact h
      · exact hm
  · rw [List.mem_cons, or_comm]

/-- What is reported in the end is what was reported before and the broken expressions met. -/
theorem mem_visit_reported {ctx : Context} {memory : Memory} {ps : List (Expr × Rule)}
    {key : String × String} :
    key ∈ (visit ctx memory ps).memory.reported ↔ key ∈ memory.reported ∨ key ∈ brokenKeys ctx ps := by
  induction ps generalizing memory with
  | nil => simp [visit, brokenKeys]
  | cons p rest ih =>
    obtain ⟨e, rule⟩ := p
    simp only [visit, brokenKeys, List.takeWhile_cons, answer] at ih ⊢
    cases h : rule.evaluate e ctx with
    | error halt => simp [halt?]
    | ok outcome =>
      cases outcome with
      | matched d => simpa [halt?, brokenKey?, h] using ih
      | declined step => simpa [halt?, brokenKey?, h] using ih
      | broken text fault => simp [halt?, brokenKey?, h, ih, mem_report, or_assoc]

/-- Offers give no unit up. -/
theorem visit_tells_no_abort (ctx : Context) (memory : Memory) (ps : List (Expr × Rule)) :
    (visit ctx memory ps).warnings.filter Warning.isAborted = [] := by
  induction ps generalizing memory with
  | nil => rfl
  | cons p rest ih =>
    obtain ⟨e, rule⟩ := p
    simp only [visit]
    cases rule.evaluate e ctx with
    | error halt => rfl
    | ok outcome =>
      cases outcome with
      | matched d => exact ih memory
      | declined step => exact ih memory
      | broken text fault =>
        have hr : (memory.report rule.name text fault).1.filter Warning.isAborted = [] := by
          unfold Memory.report
          split <;> rfl
        simp only [List.filter_append, hr, ih, List.append_nil]

/-- The warning that a unit was given up, if its offers meet a contradiction first. -/
def aborts (registry : Registry) (paths : PathTable) (crate : Crate) (u : CodeUnit) : List Warning :=
  match firstHalt? ⟨u, crate, paths⟩ (offers registry u.body) with
  | some (.malformed fault) => [.aborted u.name crate.name fault]
  | _ => []

theorem analyzeUnit_aborts (registry : Registry) (paths : PathTable) (crate : Crate) (memory : Memory)
    (u : CodeUnit) :
    (analyzeUnit registry paths crate memory u).warnings.filter Warning.isAborted =
      aborts registry paths crate u := by
  have hw := visit_tells_no_abort ⟨u, crate, paths⟩ memory (offers registry u.body)
  have hs := visit_stopped ⟨u, crate, paths⟩ memory (offers registry u.body)
  rw [aborts, firstHalt?, ← hs, analyzeUnit_eq]
  generalize visit ⟨u, crate, paths⟩ memory (offers registry u.body) = found at hw
  unfold Findings.ofOffers
  -- only giving the unit up adds a warning to those of the offers
  cases found.stopped with
  | none => exact hw
  | some halt =>
    cases halt with
    | malformed fault =>
      rw [List.filter_append, hw]
      rfl
    | uncaught fault => exact hw

theorem mem_analyzeUnit_reported {registry : Registry} {paths : PathTable} {crate : Crate} {memory : Memory}
    {u : CodeUnit} {key : String × String} :
    key ∈ (analyzeUnit registry paths crate memory u).memory.reported ↔
      key ∈ memory.reported ∨ key ∈ brokenKeys ⟨u, crate, paths⟩ (offers registry u.body) := by
  rw [← mem_visit_reported, analyzeUnit_eq]
  unfold Findings.ofOffers
  split <;> rfl

/-! ## Orders -/

section
variable {registry : Registry} {paths : PathTable} {crate : Crate}

theorem analyzeUnit_diagnoses {memory : Memory} {u : CodeUnit}
    (h : (analyzeUnit registry paths crate memory u).stopped = none) :
    (analyzeUnit registry paths crate memory u).diagnoses = unitDiagnoses registry paths crate u := by
  have hr := Findings.result_eq_ok_iff.2 ⟨h, rfl⟩
  rw [unitDiagnoses, ← analyzeUnit_result registry paths crate memory u, hr]
  rfl

/-- The first unit of an order is analysed as if nothing but the memory of reports were shared. -/
theorem analyzeInOrder_cons (hr : registry.Reachable) (hd : ∀ rule ∈ registry.rules, rule.Declared)
    (s : Shared) (u : CodeUnit) (place : Nat) (rest : List (CodeUnit × Nat)) :
    ∃ compiled, analyzeInOrder registry paths crate s ((u, place) :: rest) =
      match (analyzeUnit registry paths crate s.memory u).stopped with
      | some fault =>
        ⟨[], (analyzeUnit registry paths crate s.memory u).warnings,
          ⟨(analyzeUnit registry paths crate s.memory u).memory, compiled⟩, some fault⟩
      | none =>
        let later := analyzeInOrder registry paths crate
          ⟨(analyzeUnit registry paths crate s.memory u).memory, compiled⟩ rest
        { later with
          found := (place, (analyzeUnit registry paths crate s.memory u).diagnoses) :: later.found
          warnings := (analyzeUnit registry paths crate s.memory u).warnings ++ later.warnings } := by
  refine ⟨(analyzeUnitShared registry paths crate s u).2, ?_⟩
  rw [← analyzeUnitShared_fst hr hd paths crate s u]
  rfl

/-- If an order of units comes to its end, each of them gives something by itself. -/
theorem exists_unitResult_of_stopped (hr : registry.Reachable) (hd : ∀ rule ∈ registry.rules, rule.Declared)
    {s : Shared} {order : List (CodeUnit × Nat)}
    (h : (analyzeInOrder registry paths crate s order).stopped = none) :
    ∀ p ∈ order, ∃ ds, unitResult registry paths crate p.1 = .ok ds := by
  induction order generalizing s with
  | nil => nofun
  | cons p rest ih =>
    obtain ⟨u, place⟩ := p
    obtain ⟨compiled, hc⟩ := analyzeInOrder_cons hr hd s u place rest
    rw [hc] at h
    cases hs : (analyzeUnit registry paths crate s.memory u).stopped with
    | some fault =>
      rw [hs] at h
      cases h
    | none =>
      rw [hs] at h
      exact List.forall_mem_cons.2 ⟨analyzeUnit_stopped_iff.1 hs, ih h⟩

/-- What an order of units gives, said unit by unit. -/
structure Scheduled.Sums (registry : Registry) (paths : PathTable) (crate : Crate) (memory : Memory)
    (order : List (CodeUnit × Nat)) (r : Scheduled) : Prop where
  stopped : r.stopped = none
  found : r.found = order.map fun p => (p.2, unitDiagnoses registry paths crate p.1)
  aborts : r.warnings.filter Warning.isAborted = order.flatMap fun p => aborts registry paths crate p.1
  reported : ∀ key, key ∈ r.shared.memory.reported ↔ key ∈ memory.reported ∨
    ∃ p ∈ order, key ∈ brokenKeys ⟨p.1, crate, paths⟩ (offers registry p.1.body)

/-- Units that all give something by themselves give it in every order, whatever was shared before. -/
theorem analyzeInOrder_sums (hr : registry.Reachable) (hd : ∀ rule ∈ registry.rules, rule.Declared)
    {order : List (CodeUnit × Nat)} (h : ∀ p ∈ order, ∃ ds, unitResult registry paths crate p.1 = .ok ds)
    (s : Shared) :
    (analyzeInOrder registry paths crate s order).Sums registry paths crate s.memory order := by
  -- on the order, for every memory: the rest starts with what its first unit leaves
  induction order generalizing s with
  | nil => exact ⟨rfl, rfl, rfl, by simp [analyzeInOrder]⟩
  | cons p rest ih =>
    obtain ⟨u, place⟩ := p
    obtain ⟨hu, hrest⟩ := List.forall_mem_cons.1 h
    obtain ⟨compiled, hc⟩ := analyzeInOrder_cons hr hd s u place rest
    have hs : (analyzeUnit registry paths crate s.memory u).stopped = none := analyzeUnit_stopped_iff.2 hu
    rw [hc, hs]
    obtain ⟨stopped, found, aborted, reported⟩ := ih hrest ⟨_, compiled⟩
    refine ⟨stopped, ?_, ?_, fun key => ?_⟩
    · rw [List.map_cons, ← found, analyzeUnit_diagnoses hs]
    · rw [List.flatMap_cons, ← aborted, List.filter_append, analyzeUnit_aborts]
    · rw [reported key, mem_analyzeUnit_reported]
      simp only [List.mem_cons, exists_eq_or_imp, or_assoc]

/-- Sorting entries by their keys undoes every change of order, if the keys rise in one of the orders. -/
theorem mergeSort_of_perm {α : Type} {l l' : List (Nat × α)} (h : l.Perm l')
    (hs : l'.Pairwise fun a b => a.1 < b.1) : (l.mergeSort fun a b => a.1 ≤ b.1) = l' := by
  have hm : (l.mergeSort fun a b => a.1 ≤ b.1).Perm l' := (List.mergeSort_perm _ _).trans h
  have hn : (l'.map (·.1)).Nodup := List.pairwise_map.2 (hs.imp Nat.ne_of_lt)
  refine List.Perm.eq_of_pairwise ?_ (List.pairwise_mergeSort ?_ ?_ l) (hs.imp ?_) hm
  · -- no two entries have one key, so entries neither of which comes first are the same
    intro a b ha hb hab hba
    simp only [decide_eq_true_eq] at hab hba
    exact List.inj_on_of_nodup_map hn (hm.mem_iff.1 ha) hb (by omega)
  · simp only [decide_eq_true_eq]
    omega
  · simp only [Bool.or_eq_true, decide_eq_true_eq]
    omega
  · simp only [decide_eq_true_eq]
    omega

/-- Put together by place, the diagnoses come in the order of the units. -/
theorem Scheduled.Sums.merged_eq {memory : Memory} {units : List CodeUnit} {order : List (CodeUnit × Nat)}
    {r : Scheduled} (h : r.Sums registry paths crate memory order) (ho : order.Perm units.zipIdx) :
    r.merged = units.flatMap (unitDiagnoses registry paths crate) := by
  have rising : (units.zipIdx.map (·.2)).Pairwise (· < ·) := by
    rw [List.zipIdx_map_snd]
    exact List.pairwise_lt_range'
  have sorted : (r.found.mergeSort fun a b => a.1 ≤ b.1) =
      units.zipIdx.map fun p => (p.2, unitDiagnoses registry paths crate p.1) := by
    rw [h.found]
    exact mergeSort_of_perm (ho.map _) (List.pairwise_map.2 (List.pairwise_map.1 rising))
  calc r.merged
    _ = (units.zipIdx.map fun p => (p.2, unitDiagnoses registry paths crate p.1)).flatMap (·.2) := by
      rw [merged, sorted]
    _ = (units.zipIdx.map (·.1)).flatMap (unitDiagnoses registry paths crate) := by
      rw [List.flatMap_map, List.flatMap_map]
    _ = units.flatMap (unitDiagnoses registry paths crate) := by rw [List.zipIdx_map_fst]

end

/-- If the analysis of the units in the order of the crate comes to its end, so it does in every other
order, whatever was reported and read before. Put together by place, the diagnoses are the same,
and the same as with any number of workers. The units given up are the same ones. From memories
with the same reports, the memories in the end have the same reports. -/
theorem analysis_any_order {registry : Registry} (hr : registry.Reachable)
    (hd : ∀ rule ∈ registry.rules, rule.Declared) (paths : PathTable) (crate : Crate) {s : Shared}
    (returns : (analyzeInOrder registry paths crate s crate.units.zipIdx).stopped = none) (s' : Shared)
    {order : List (CodeUnit × Nat)} (ho : order.Perm crate.units.zipIdx) :
    let inTurn := analyzeInOrder registry paths crate s crate.units.zipIdx
    let other := analyzeInOrder registry paths crate s' order
    other.stopped = none ∧ other.merged = inTurn.merged ∧
      (∀ (memory : Memory) (jobs : Int) (r : Except Guard.Fault (List Diagnosis)),
        CrateAnalysis registry paths crate memory jobs r ↔ r = .ok inTurn.merged) ∧
      (other.warnings.filter Warning.isAborted).Perm (inTurn.warnings.filter Warning.isAborted) ∧
      ((∀ key, key ∈ s'.memory.reported ↔ key ∈ s.memory.reported) →
        ∀ key, key ∈ other.shared.memory.reported ↔ key ∈ inTurn.shared.memory.reported) := by
  intro inTurn other
  have hu := exists_unitResult_of_stopped hr hd returns
  have first : inTurn.Sums registry paths crate s.memory crate.units.zipIdx := analyzeInOrder_sums hr hd hu s
  have second : other.Sums registry paths crate s'.memory order :=
    analyzeInOrder_sums hr hd (fun p hp => hu p (ho.mem_iff.1 hp)) s'
  have merged : inTurn.merged = crate.units.flatMap (unitDiagnoses registry paths crate) :=
    first.merged_eq (.refl _)
  refine ⟨second.stopped, (second.merged_eq ho).trans merged.symm, fun memory jobs r => ?_, ?_,
    fun same key => ?_⟩
  · rw [crateAnalysis_iff, merged, gather_units_of_ok]
    intro u hm
    obtain ⟨p, hp, rfl⟩ := List.mem_map.1 (List.zipIdx_map_fst 0 crate.units ▸ hm)
    exact hu p hp
  · rw [first.aborts, second.aborts]
    exact ho.flatMap_right _
  · rw [first.reported, second.reported, same]
    simp only [ho.mem_iff]

/-! ## Two rules, one of them with a broken expression -/

/-- The rule that is always there, and one whose expression names nothing. -/
def nameTestRegistry : Registry :=
  ⟨[invalidRef, exprRule "x" (some (.name "x"))],
    ⟨[("Call", [invalidRef]), ("Block", [exprRule "x" (some (.name "x"))])]⟩⟩

theorem reachable_nameTestRegistry : nameTestRegistry.Reachable := by
  have h : Registry.ofRules [invalidRef, exprRule "x" (some (.name "x"))] = .ok nameTestRegistry := rfl
  exact Registry.reachable_ofRules h

/-- Nothing reported, but the expression was read before. -/
def readBefore : Shared := ⟨.empty, Guard.Compiled.empty.keep "x" (.name "x") nameTest_read⟩

/-- The units in the other order, the one that contradicts itself last. -/
theorem halfSound_any_order :
    (∀ rule ∈ nameTestRegistry.rules, rule.Declared) ∧
    [(idle, 1), (halfSound, 0)].Perm halfSoundCrate.units.zipIdx ∧
    (analyzeInOrder nameTestRegistry .standard halfSoundCrate ⟨.empty, .empty⟩
      halfSoundCrate.units.zipIdx).stopped = none ∧
    (analyzeInOrder nameTestRegistry .standard halfSoundCrate readBefore [(idle, 1), (halfSound, 0)]).merged =
      (analyzeInOrder nameTestRegistry .standard halfSoundCrate ⟨.empty, .empty⟩
        halfSoundCrate.units.zipIdx).merged := by
  have declared : ∀ rule ∈ nameTestRegistry.rules, rule.Declared ∧ rule.isByteless = true :=
    List.forall_mem_cons.2 ⟨⟨.inl rfl, rfl⟩,
      List.forall_mem_singleton.2 ⟨declared_exprRule nameTest_ofText, rfl⟩⟩
  have hd : ∀ rule ∈ nameTestRegistry.rules, rule.Declared := fun rule hm => (declared rule hm).1
  have swap : [(idle, 1), (halfSound, 0)].Perm halfSoundCrate.units.zipIdx := .swap _ _ _
  have returns : (analyzeInOrder nameTestRegistry .standard halfSoundCrate ⟨.empty, .empty⟩
      halfSoundCrate.units.zipIdx).stopped = none :=
    (analyzeInOrder_sums reachable_nameTestRegistry hd
      (fun p _ => exists_unitResult reachable_nameTestRegistry declared _ _ p.1) _).stopped
  exact ⟨hd, swap, returns,
    (analysis_any_order reachable_nameTestRegistry hd .standard halfSoundCrate returns readBefore swap).2.1⟩

end ChainLint
