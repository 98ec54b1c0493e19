import ChainLint.Pool
import ChainLint.Proofs.Registry
import ChainLint.Proofs.Walk
import Mathlib.Data.List.Forall2
import Mathlib.Data.List.TakeWhile
/-!
# What the analysis of a unit gives

The findings of a unit are those of its offers, unless some offer halts: then
the first halt decides. `visit_stopped` and `visit_diagnoses` say so without
the memory of reports, so that memory never flows into a diagnosis.
`analyzeUnits_result` puts the units together.
-/

namespace ChainLint

/-- What a rule answers when it is offered a node. -/
def answer (ctx : Context) (p : Expr × Rule) : Except Halt Outcome := p.2.evaluate p.1 ctx

/-- The finding that an answer is, if it is one. -/
def finding? : Except Halt Outcome → Option Diagnosis
  | .ok (.matched d) => some d
  | _ => none

/-- The halt instead of an answer. -/
def halt? : Except Halt Outcome → Option Halt
  | .ok _ => none
  | .error halt => some halt

/-! ## Offers in order -/

theorem visit_stopped (ctx : Context) (memory : Memory) (ps : List (Expr × Rule)) :
    (visit ctx memory ps).stopped = ps.findSome? fun p => halt? (answer ctx p) := by
  induction ps generalizing memory with
  | nil => rfl
  | cons p rest ih =>
    obtain ⟨e, rule⟩ := p
    rw [List.findSome?_cons]
    simp only [visit, answer]
    cases h : rule.evaluate e ctx with
    | error halt => rfl
    | ok outcome =>
      cases outcome with
      | matched d => exact ih memory
      | declined step => exact ih memory
      | broken text fault => exact ih _

theorem visit_diagnoses (ctx : Context) (memory : Memory) (ps : List (Expr × Rule)) :
    (visit ctx memory ps).diagnoses =
      (ps.takeWhile fun p => (halt? (answer ctx p)).isNone).filterMap
        fun p => finding? (answer ctx p) := by
  induction ps generalizing memory with
  | nil => rfl
  | cons p rest ih =>
    obtain ⟨e, rule⟩ := p
    simp only [visit, answer, List.takeWhile_cons] at ih ⊢
    cases h : rule.evaluate e ctx with
    | error halt => simp [halt?]
    | ok outcome =>
      cases outcome with
      | matched d => simp [halt?, finding?, h, ih memory]
      | declined step => simp [halt?, finding?, h, ih memory]
      | broken text fault => simp [halt?, finding?, h, ih]

/-- Where no offer halts, the findings are those of all offers. -/
theorem visit_diagnoses_of_none {ctx : Context} {memory : Memory} {ps : List (Expr × Rule)}
    (h : (visit ctx memory ps).stopped = none) :
    (visit ctx memory ps).diagnoses = ps.filterMap fun p => finding? (answer ctx p) := by
  rw [visit_stopped, List.findSome?_eq_none_iff] at h
  rw [visit_diagnoses, List.takeWhile_eq_self_iff.2 fun p hp => by simp [h p hp]]

/-! ## A unit -/

/-- What a unit gives when its offers found something and maybe halted. -/
def settle (u : CodeUnit) (found : List Diagnosis) : Option Halt → Except Guard.Fault (List Diagnosis)
  | none => .ok found
  | some (.malformed fault) => .ok [.ofMalformed u fault]
  | some (.uncaught fault) => .error fault

/-- What a unit gives, said without the memory of reports. -/
def unitResult (registry : Registry) (paths : PathTable) (crate : Crate) (u : CodeUnit) :
    Except Guard.Fault (List Diagnosis) :=
  settle u ((offers registry u.body).filterMap fun p => finding? (answer ⟨u, crate, paths⟩ p))
    ((offers registry u.body).findSome? fun p => halt? (answer ⟨u, crate, paths⟩ p))

/-- What a unit gives depends on the crate through the answers to its offers only. -/
theorem unitResult_eq (registry : Registry) (paths : PathTable) (crate : Crate) (u : CodeUnit) :
    unitResult registry paths crate u =
      settle u (((offers registry u.body).map (answer ⟨u, crate, paths⟩)).filterMap finding?)
        (((offers registry u.body).map (answer ⟨u, crate, paths⟩)).findSome? halt?) := by
  rw [unitResult, List.filterMap_map, List.findSome?_map]
  rfl

theorem settle_visit (ctx : Context) (memory : Memory) (ps : List (Expr × Rule)) (u : CodeUnit)
    (before : List Diagnosis) :
    settle u (before ++ (visit ctx memory ps).diagnoses) (visit ctx memory ps).stopped =
      settle u (before ++ ps.filterMap fun p => finding? (answer ctx p))
        (ps.findSome? fun p => halt? (answer ctx p)) := by
  cases h : (visit ctx memory ps).stopped with
  | none => rw [visit_diagnoses_of_none h, ← visit_stopped ctx memory, h]
  | some halt =>
    -- what was found before a halt does not show
    rw [← visit_stopped ctx memory, h]
    cases halt <;> rfl

theorem analyzeUnit_result (registry : Registry) (paths : PathTable) (crate : Crate)
    (memory : Memory) (u : CodeUnit) :
    (analyzeUnit registry paths crate memory u).result = unitResult registry paths crate u := by
  have h := settle_visit ⟨u, crate, paths⟩ memory (offers registry u.body) u []
  simp only [List.nil_append] at h
  rw [unitResult, ← h]
  simp only [analyzeUnit]
  split <;> simp_all [settle, Findings.result]

theorem Findings.result_eq_ok_iff {ε : Type} {f : Findings ε} {ds : List Diagnosis} :
    f.result = .ok ds ↔ f.stopped = none ∧ f.diagnoses = ds := by
  unfold Findings.result
  split <;> simp_all

/-- An analysis comes to its end if and only if the unit gives something, whatever was reported before. -/
theorem analyzeUnit_stopped_iff {registry : Registry} {paths : PathTable} {crate : Crate} {memory : Memory}
    {u : CodeUnit} :
    (analyzeUnit registry paths crate memory u).stopped = none ↔
      ∃ ds, unitResult registry paths crate u = .ok ds := by
  rw [← analyzeUnit_result registry paths crate memory u]
  simp only [Findings.result_eq_ok_iff, exists_and_left, exists_eq', and_true]

/-! ## All units -/

theorem analyzeUnits_result (registry : Registry) (paths : PathTable) (crate : Crate)
    (memory : Memory) (units : List CodeUnit) :
    (analyzeUnits registry paths crate memory units).result =
      gather (units.map (unitResult registry paths crate)) := by
  induction units generalizing memory with
  | nil => rfl
  | cons u rest ih =>
    rw [List.map_cons, ← analyzeUnit_result registry paths crate memory u, analyzeUnits]
    generalize analyzeUnit registry paths crate memory u = first
    cases h : first.stopped with
    | some fault => simp [Findings.result, h, gather]
    | none =>
      simp only [Findings.result, h, gather] at ih ⊢
      rw [← ih first.memory]
      cases (analyzeUnits registry paths crate first.memory rest).stopped <;> rfl

theorem analyzeCrate_result (registry : Registry) (paths : PathTable) (memory : Memory)
    (crate : Crate) :
    (analyzeCrate registry paths memory crate).result =
      gather (crate.units.map (unitResult registry paths crate)) :=
  analyzeUnits_result registry paths crate memory crate.units

/-- Parts give diagnoses together if each of them gives some, and then one after the other. -/
theorem gather_eq_ok_iff {l : List (Except Guard.Fault (List Diagnosis))} {ds : List Diagnosis} :
    gather l = .ok ds ↔ ∃ dss, List.Forall₂ (fun r ds => r = .ok ds) l dss ∧ ds = dss.flatten := by
  induction l generalizing ds with
  | nil => simp [gather, eq_comm]
  | cons r rest ih =>
    cases r with
    | error fault => simp [gather, List.forall₂_cons_left_iff]
    | ok first =>
      rw [gather]
      constructor
      · intro h
        cases hr : gather rest with
        | error fault =>
          rw [hr] at h
          cases h
        | ok later =>
          rw [hr] at h
          cases h
          obtain ⟨dss, hf, rfl⟩ := ih.1 hr
          exact ⟨first :: dss, .cons rfl hf, rfl⟩
      · rintro ⟨_, _ | ⟨hfirst, hlater⟩, rfl⟩
        cases hfirst
        rw [ih.2 ⟨_, hlater, rfl⟩]
        rfl

/-- What a unit gives by itself; nothing if a fault stops it. -/
def unitDiagnoses (registry : Registry) (paths : PathTable) (crate : Crate) (u : CodeUnit) : List Diagnosis :=
  (unitResult registry paths crate u).toOption.getD []

/-- Units that all give diagnoses give them one after the other. -/
theorem gather_units_of_ok {registry : Registry} {paths : PathTable} {crate : Crate} {units : List CodeUnit}
    (h : ∀ u ∈ units, ∃ ds, unitResult registry paths crate u = .ok ds) :
    gather (units.map (unitResult registry paths crate)) =
      .ok (units.flatMap (unitDiagnoses registry paths crate)) := by
  induction units with
  | nil => rfl
  | cons u rest ih =>
    obtain ⟨⟨first, hu⟩, hrest⟩ := List.forall_mem_cons.1 h
    rw [List.map_cons, List.flatMap_cons, unitDiagnoses, hu, gather, ih hrest]
    rfl

theorem gather_singleton (r : Except Guard.Fault (List Diagnosis)) : gather [r] = r := by
  cases r with
  | error fault => rfl
  | ok ds => exact congrArg Except.ok (List.append_nil ds)

/-- Analyses give diagnoses together if none of them stops. -/
theorem gather_result_eq_ok_iff {α : Type} (analysis : α → Findings Guard.Fault) (l : List α)
    (ds : List Diagnosis) :
    gather (l.map fun a => (analysis a).result) = .ok ds ↔
      (∀ a ∈ l, (analysis a).stopped = none) ∧ ds = l.flatMap fun a => (analysis a).diagnoses := by
  have hd : ∀ dss, List.Forall₂ (fun a ds => (analysis a).diagnoses = ds) l dss ↔
      l.map (fun a => (analysis a).diagnoses) = dss := fun dss => by
    rw [← List.forall₂_map_left_iff, List.forall₂_eq_eq_eq]
  rw [gather_eq_ok_iff]
  simp only [List.forall₂_map_left_iff, Findings.result_eq_ok_iff, List.forall₂_and_left, hd]
  constructor
  · rintro ⟨_, ⟨hs, rfl⟩, rfl⟩
    exact ⟨hs, rfl⟩
  · rintro ⟨hs, rfl⟩
    exact ⟨_, ⟨hs, rfl⟩, rfl⟩

end ChainLint
