import ChainLint.Proofs.Analysis
/-!
# Side by side is the same as in turn

A step of the pool changes neither the units nor what any of them will give in
the end (`Step.outlooks_eq`), so a finished pool gives what the units give in turn. Each
step also leaves less to do, and an unfinished pool can always make one, so
every pool comes to an end.
-/

namespace ChainLint

namespace Task

/-- What a unit under way will give in the end. -/
def outlook (paths : PathTable) (crate : Crate) (t : Task) : Except Guard.Fault (List Diagnosis) :=
  match t.halt with
  | some halt => settle t.unit t.found (some halt)
  | none =>
    settle t.unit
      (t.found ++ t.pending.filterMap fun p => finding? (answer ⟨t.unit, crate, paths⟩ p))
      (t.pending.findSome? fun p => halt? (answer ⟨t.unit, crate, paths⟩ p))

theorem outlook_start (registry : Registry) (paths : PathTable) (crate : Crate) (u : CodeUnit) :
    (start registry u).outlook paths crate = unitResult registry paths crate u := rfl

theorem outlook_of_done {paths : PathTable} {crate : Crate} {t : Task} (h : t.isDone = true) :
    t.outlook paths crate = t.result := by
  obtain ⟨u, pending, found, halt⟩ := t
  cases halt with
  | none =>
    have hp : pending = [] := by simpa [isDone] using h
    subst hp
    simp [outlook, result, settle]
  | some halt => cases halt <;> rfl

/-- An offer moves what it found from what is pending to what was found. -/
theorem outlook_after {paths : PathTable} {crate : Crate} {t : Task} {next : Expr × Rule}
    {pending : List (Expr × Rule)} (memory : Memory) (ready : t.halt = none)
    (due : t.pending = next :: pending) :
    (t.after pending (visit ⟨t.unit, crate, paths⟩ memory [next])).outlook paths crate =
      t.outlook paths crate := by
  have hs := visit_stopped ⟨t.unit, crate, paths⟩ memory [next]
  cases h : (visit ⟨t.unit, crate, paths⟩ memory [next]).stopped with
  | some halt =>
    rw [h] at hs
    have hn : halt? (answer ⟨t.unit, crate, paths⟩ next) = some halt := by simpa using hs.symm
    simp only [outlook, after, h, ready, due, List.findSome?_cons, hn]
    cases halt <;> rfl
  | none =>
    have hd := visit_diagnoses_of_none h
    rw [h] at hs
    have hn : halt? (answer ⟨t.unit, crate, paths⟩ next) = none := by simpa using hs.symm
    simp only [outlook, after, h, ready, due, List.findSome?_cons, hn, hd, List.append_assoc]
    rw [← List.filterMap_append, List.singleton_append]

end Task

namespace Pool

variable {registry : Registry} {paths : PathTable} {crate : Crate} {jobs : Int}

/-! ## What steps keep -/

/-- What the units will give in the end, in their order. -/
def outlooks (registry : Registry) (paths : PathTable) (crate : Crate) (p : Pool) :
    List (Except Guard.Fault (List Diagnosis)) :=
  p.tasks.map (Task.outlook paths crate) ++ p.waiting.map (unitResult registry paths crate)

theorem Step.outlooks_eq {p q : Pool} (h : Step registry paths crate jobs p q) :
    q.outlooks registry paths crate = p.outlooks registry paths crate := by
  cases h with
  | start next free => simp [outlooks, next, Task.outlook_start]
  | offer under ready due made moved =>
    subst made moved
    simp [outlooks, under, Task.outlook_after _ ready due]

theorem Steps.outlooks_eq {p q : Pool} (h : Steps registry paths crate jobs p q) :
    q.outlooks registry paths crate = p.outlooks registry paths crate := by
  induction h with
  | refl p => rfl
  | head hs _ ih => exact ih.trans hs.outlooks_eq

theorem result_of_done {p : Pool} (h : p.isDone = true) :
    p.result = gather (p.outlooks registry paths crate) := by
  simp only [isDone, Bool.and_eq_true, List.isEmpty_iff, List.all_eq_true] at h
  rw [outlooks, h.1, List.map_nil, List.append_nil, result]
  congr 1
  exact List.map_congr_left fun t ht => (Task.outlook_of_done (h.2 t ht)).symm

/-- A pool that has come to its end gives what the units give in turn. -/
theorem Steps.result_eq {p : Pool} {memory : Memory}
    (h : Steps registry paths crate jobs (.ofUnits crate.units memory) p) (hd : p.isDone = true) :
    p.result = gather (crate.units.map (unitResult registry paths crate)) := by
  rw [result_of_done hd, h.outlooks_eq]
  rfl

/-! ## Every pool comes to an end -/

/-- How much is left: the units to start with all their offers, and the pending offers. -/
def left (registry : Registry) (p : Pool) : Nat :=
  p.waiting.length + (p.waiting.flatMap fun u => offers registry u.body).length +
    (p.tasks.flatMap Task.pending).length

theorem Step.left_lt {p q : Pool} (h : Step registry paths crate jobs p q) :
    q.left registry < p.left registry := by
  cases h with
  | start next free =>
    simp only [left, next, Task.start, List.length_cons, List.flatMap_cons, List.flatMap_append,
      List.flatMap_nil, List.length_append, List.append_nil]
    omega
  | offer under ready due made moved =>
    simp only [left, under, moved, Task.after, due, List.flatMap_append, List.flatMap_cons,
      List.length_append, List.length_cons]
    omega

/-- While there is something to do, a worker can do it. -/
theorem exists_step (registry : Registry) (paths : PathTable) (crate : Crate) {p : Pool}
    (hj : 1 ≤ jobs) (hd : p.isDone = false) : ∃ q, Step registry paths crate jobs p q := by
  by_cases ht : ∃ t ∈ p.tasks, t.isDone = false
  · obtain ⟨t, hm, ht⟩ := ht
    obtain ⟨before, after, under⟩ := List.append_of_mem hm
    simp only [Task.isDone, Bool.or_eq_false_iff, List.isEmpty_eq_false_iff_exists_mem,
      Option.isSome_eq_false_iff, Option.isNone_iff_eq_none] at ht
    obtain ⟨⟨next, hn⟩, ready⟩ := ht
    obtain ⟨next, pending, due⟩ := List.exists_cons_of_ne_nil (List.ne_nil_of_mem hn)
    exact ⟨_, .offer under ready due rfl rfl⟩
  · have hall : ∀ t ∈ p.tasks, t.isDone = true := by simpa using ht
    have hw : p.waiting ≠ [] := by
      intro hw
      simp [isDone, hw] at hd
      obtain ⟨t, hm, ht⟩ := hd
      simp [hall t hm] at ht
    obtain ⟨u, waiting, next⟩ := List.exists_cons_of_ne_nil hw
    have hb : p.busy = 0 := List.countP_eq_zero.2 fun t hm => by simp [hall t hm]
    exact ⟨_, .start next (by omega)⟩

theorem exists_done (registry : Registry) (paths : PathTable) (crate : Crate) (hj : 1 ≤ jobs)
    (p : Pool) : ∃ q, Steps registry paths crate jobs p q ∧ q.isDone = true := by
  cases hd : p.isDone with
  | true => exact ⟨p, .refl p, hd⟩
  | false =>
    obtain ⟨q, hq⟩ := exists_step registry paths crate hj hd
    obtain ⟨r, hr, hdone⟩ := exists_done registry paths crate hj q
    exact ⟨r, .head hq hr, hdone⟩
termination_by p.left registry
decreasing_by exact hq.left_lt

end Pool

/-- However many workers there are, a crate gives what its units give in turn. -/
theorem crateAnalysis_iff {registry : Registry} {paths : PathTable} {crate : Crate} {memory : Memory}
    {jobs : Int} {r : Except Guard.Fault (List Diagnosis)} :
    CrateAnalysis registry paths crate memory jobs r ↔
      r = gather (crate.units.map (unitResult registry paths crate)) := by
  constructor
  · intro h
    cases h with
    | inTurn _ => exact analyzeCrate_result registry paths memory crate
    | sideBySide _ steps done => exact steps.result_eq done
  · rintro rfl
    by_cases many : 1 < jobs ∧ 1 < crate.units.length
    · have hj : 1 ≤ jobs := by omega
      obtain ⟨p, steps, done⟩ :=
        Pool.exists_done registry paths crate hj (.ofUnits crate.units memory)
      rw [← steps.result_eq done]
      exact .sideBySide many steps done
    · rw [← analyzeCrate_result registry paths memory crate]
      exact .inTurn (by omega)

end ChainLint
