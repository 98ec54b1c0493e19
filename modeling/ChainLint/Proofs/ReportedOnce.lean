import ChainLint.Proofs.Schedule
/-!
# A broken expression is reported once

`reported_once`: over any analyses that come to their ends, one after the other,
an expression of a rule is reported once if it fails somewhere, and otherwise
not at all. What reporting does to the memory is said by `Memory.Grows`, which
is closed under going on: from one report it passes to the offers of a unit
(`grows_visit`), to the units of a crate (`tells_analyzeUnits`) and to analyses
in a row (`grows_analyzeAll`). An analysis that is repeated meets the same broken
expressions, all of them reported, so it gives the same and reports nothing.
-/

namespace ChainLint

/-! ## Expressions that fail -/

/-- An expression of this text fails at a node: the guards of the rule before it pass, and it has no value. -/
def Rule.FailsAt (r : Rule) (e : Expr) (ctx : Context) (text : String) : Prop :=
  ∃ t b fault, r.ComesTo e ctx text t b ∧ Guard.eval (b.scope e ctx.unit) t = .error fault

section
variable {r : Rule} {e : Expr} {ctx : Context} {b : Bindings} {text : String} {fault : Guard.Fault}

/-- Of the guards only expressions can be broken. -/
theorem check_broken {g : Guard} (h : g.check e ctx b = .ok (.broken text fault)) :
    ∃ t, g = .expr text (some t) ∧ Guard.eval (b.scope e ctx.unit) t = .error fault := by
  cases g with
  | callArity count =>
    simp only [Guard.check, Except.ok.injEq] at h
    split at h <;> cases h
  | calleeIsPath =>
    simp only [Guard.check] at h
    split at h
    · simp only [Except.ok.injEq] at h
      split at h <;> cases h
    · cases h
  | resultShape shape =>
    obtain ⟨actual, -, h⟩ := exists_of_bind_eq_ok h
    split at h <;> cases h
  | resolves =>
    obtain ⟨path, -, h⟩ := exists_of_bind_eq_ok h
    cases path <;> cases h
  | expr text' term =>
    cases term with
    | none => cases h
    | some t =>
      simp only [Guard.check, Guard.checkTerm] at h
      split at h
      · simp only [Except.ok.injEq] at h
        split at h <;> cases h
      · next fault' failed =>
        split at h <;> cases h
        exact ⟨t, rfl, failed⟩
  | custom name holds =>
    obtain ⟨found, -, h⟩ := exists_of_bind_eq_ok h
    cases found <;> cases h

/-- A chain that ends with a broken expression has come to it. -/
theorem run_broken {gs : List Guard} (h : r.run e ctx b gs = .ok (.broken text fault)) :
    ∃ before t after b', gs = before ++ .expr text (some t) :: after ∧ Passes e ctx b before b' ∧
      Guard.eval (b'.scope e ctx.unit) t = .error fault := by
  induction gs generalizing b with
  | nil =>
    obtain ⟨summary, -, h⟩ := exists_of_bind_eq_ok h
    cases summary <;> cases h
  | cons g rest ih =>
    rw [Rule.run] at h
    cases hv : g.check e ctx b with
    | error halt =>
      rw [hv] at h
      cases h
    | ok verdict =>
      rw [hv] at h
      cases verdict with
      | passed b' =>
        obtain ⟨before, t, after, b'', rfl, passes, failed⟩ := ih h
        exact ⟨g :: before, t, after, b'', rfl, .cons hv passes, failed⟩
      | failed => cases h
      | broken text' fault' =>
        cases h
        obtain ⟨t, rfl, failed⟩ := check_broken hv
        exact ⟨[], t, rest, b, rfl, .nil b, failed⟩

/-- The answer of a rule is that an expression is broken if and only if the expression fails, where no fault
ends the evaluation. -/
theorem exists_broken_iff (answers : ∀ fault, r.evaluate e ctx ≠ .error (.uncaught fault)) :
    (∃ fault, r.evaluate e ctx = .ok (.broken text fault)) ↔ r.FailsAt e ctx text := by
  constructor
  · rintro ⟨fault, broken⟩
    obtain ⟨before, t, after, b, guards, passes, failed⟩ := run_broken broken
    exact ⟨t, b, fault, ⟨before, after, guards, passes⟩, failed⟩
  · rintro ⟨t, b, fault, comes, failed⟩
    have answer := comes.evaluate_eq failed
    by_cases caught : fault.isCaught
    · exact ⟨fault, by rw [answer, if_pos caught]⟩
    · rw [if_neg caught] at answer
      exact absurd answer (answers fault)

end

theorem mem_takeWhile_iff {α : Type} {p : α → Bool} {l : List α} {a : α} :
    a ∈ l.takeWhile p ↔ ∃ before after, l = before ++ a :: after ∧ (∀ x ∈ before, p x) ∧ p a := by
  constructor
  · intro hm
    obtain ⟨before, after, taken⟩ := List.append_of_mem hm
    have holds : ∀ x ∈ l.takeWhile p, p x := fun x => List.mem_takeWhile_imp
    rw [taken] at holds
    refine ⟨before, after ++ l.dropWhile p, ?_, fun x hx => holds x (by simp [hx]), holds a (by simp)⟩
    rw [← List.cons_append, ← List.append_assoc, ← taken, List.takeWhile_append_dropWhile]
  · rintro ⟨before, after, rfl, holds, last⟩
    rw [List.takeWhile_append_of_pos holds, List.takeWhile_cons_of_pos last]
    simp

/-- The broken expressions that offers meet before the first halt. -/
theorem mem_brokenKeys_iff {ctx : Context} {ps : List (Expr × Rule)} {name text : String} :
    (name, text) ∈ brokenKeys ctx ps ↔ ∃ before p after, ps = before ++ p :: after ∧
      (∀ q ∈ before, ∃ outcome, answer ctx q = .ok outcome) ∧
      p.2.name = name ∧ ∃ fault, answer ctx p = .ok (.broken text fault) := by
  have answers : ∀ q, (halt? (answer ctx q)).isNone = true ↔ ∃ outcome, answer ctx q = .ok outcome := by
    intro q
    cases answer ctx q <;> simp [halt?]
  have key : ∀ p, brokenKey? p.2 (answer ctx p) = some (name, text) ↔
      p.2.name = name ∧ ∃ fault, answer ctx p = .ok (.broken text fault) := by
    intro p
    cases answer ctx p with
    | error halt => simp [brokenKey?]
    | ok outcome => cases outcome <;> simp [brokenKey?]
  simp only [brokenKeys, List.mem_filterMap, mem_takeWhile_iff, answers, key]
  constructor
  · rintro ⟨p, ⟨before, after, split, earlier, -⟩, named, broken⟩
    exact ⟨before, p, after, split, earlier, named, broken⟩
  · rintro ⟨before, p, after, split, earlier, named, fault, broken⟩
    exact ⟨p, ⟨before, after, split, earlier, _, broken⟩, named, fault, broken⟩

/-! ## Reports -/

/-- The name of the rule and the text of the expression, if a warning is about a broken one. -/
def Warning.brokenKey? : Warning → Option (String × String)
  | .brokenGuard rule text _ => some (rule, text)
  | _ => none

/-- The broken expressions that warnings report. -/
def reports (ws : List Warning) : List (String × String) := ws.filterMap Warning.brokenKey?

theorem reports_append (ws ws' : List Warning) : reports (ws ++ ws') = reports ws ++ reports ws' :=
  List.filterMap_append

/-- What reporting makes of the memory: each report is of something that was not reported before and is
not reported again, and all of it is remembered. -/
structure Memory.Grows (m : Memory) (ws : List Warning) (m' : Memory) : Prop where
  once : (reports ws).Nodup
  new : ∀ key ∈ reports ws, key ∉ m.reported
  remembered : ∀ key, key ∈ m'.reported ↔ key ∈ m.reported ∨ key ∈ reports ws

section
variable {m m' m'' : Memory} {ws ws' : List Warning}

/-- Other warnings leave the memory as it is. -/
theorem grows_of_silent (silent : reports ws = []) (m : Memory) : m.Grows ws m where
  once := silent ▸ List.nodup_nil
  new := by simp [silent]
  remembered := by simp [silent]

theorem Memory.Grows.append (h : m.Grows ws m') (h' : m'.Grows ws' m'') : m.Grows (ws ++ ws') m'' where
  once := by
    rw [reports_append]
    refine h.once.append h'.once fun key first again => h'.new key again ?_
    exact (h.remembered key).2 (.inr first)
  new := by
    intro key hm known
    rw [reports_append, List.mem_append] at hm
    rcases hm with hm | hm
    · exact h.new key hm known
    · exact h'.new key hm ((h.remembered key).2 (.inl known))
  remembered := by
    intro key
    rw [h'.remembered, h.remembered, reports_append, List.mem_append, or_assoc]

theorem grows_report (m : Memory) (rule text : String) (fault : Guard.Fault) :
    m.Grows (m.report rule text fault).1 (m.report rule text fault).2 := by
  unfold Memory.report
  split
  · exact grows_of_silent rfl m
  · next unknown =>
    have unknown : (rule, text) ∉ m.reported := fun hm => unknown (List.contains_iff_mem.2 hm)
    have one : reports [.brokenGuard rule text fault] = [(rule, text)] := rfl
    refine ⟨one ▸ List.nodup_singleton _, ?_, ?_⟩
    · simpa [one] using unknown
    · simp [one, or_comm]

theorem grows_visit (ctx : Context) (m : Memory) (ps : List (Expr × Rule)) :
    m.Grows (visit ctx m ps).warnings (visit ctx m ps).memory := by
  induction ps generalizing m with
  | nil => exact grows_of_silent rfl m
  | cons p rest ih =>
    obtain ⟨e, rule⟩ := p
    simp only [visit]
    cases rule.evaluate e ctx with
    | error halt => exact grows_of_silent rfl m
    | ok outcome =>
      cases outcome with
      | matched d => exact ih m
      | declined step => exact ih m
      | broken text fault => exact (grows_report m rule.name text fault).append (ih _)

theorem grows_analyzeUnit (registry : Registry) (paths : PathTable) (crate : Crate) (m : Memory) (u : CodeUnit) :
    m.Grows (analyzeUnit registry paths crate m u).warnings (analyzeUnit registry paths crate m u).memory := by
  have visited := grows_visit ⟨u, crate, paths⟩ m (offers registry u.body)
  rw [analyzeUnit_eq]
  unfold Findings.ofOffers
  split
  · exact visited
  · exact visited.append (grows_of_silent rfl _)
  · exact visited

end

/-! ## Units one after another -/

section
variable {registry : Registry} {paths : PathTable} {crate : Crate} {memory : Memory} {units : List CodeUnit}

/-- The analysis of units comes to its end if and only if each of them gives something by itself. -/
theorem analyzeUnits_stopped_iff : (analyzeUnits registry paths crate memory units).stopped = none ↔
    ∀ u ∈ units, ∃ ds, unitResult registry paths crate u = .ok ds := by
  induction units generalizing memory with
  | nil => simp [analyzeUnits]
  | cons u rest ih =>
    have first : (analyzeUnit registry paths crate memory u).stopped = none ↔
        ∃ ds, unitResult registry paths crate u = .ok ds := analyzeUnit_stopped_iff
    rw [List.forall_mem_cons, ← first, analyzeUnits]
    cases stopped : (analyzeUnit registry paths crate memory u).stopped with
    | some fault => simp
    | none => simp [ih]

/-- What the analysis of units tells and remembers, said unit by unit. -/
structure Findings.Tells (registry : Registry) (paths : PathTable) (crate : Crate) (memory : Memory)
    (units : List CodeUnit) (found : Findings Guard.Fault) : Prop where
  grows : memory.Grows found.warnings found.memory
  met : ∀ key, key ∈ found.memory.reported ↔ key ∈ memory.reported ∨
    ∃ u ∈ units, key ∈ brokenKeys ⟨u, crate, paths⟩ (offers registry u.body)
  aborted : found.warnings.filter Warning.isAborted = units.flatMap (aborts registry paths crate)

theorem tells_analyzeUnits (returns : (analyzeUnits registry paths crate memory units).stopped = none) :
    (analyzeUnits registry paths crate memory units).Tells registry paths crate memory units := by
  -- on the units, for every memory: the rest starts with what the first one leaves
  induction units generalizing memory with
  | nil => exact ⟨grows_of_silent rfl memory, by simp [analyzeUnits], rfl⟩
  | cons u rest ih =>
    have first := grows_analyzeUnit registry paths crate memory u
    rw [analyzeUnits] at returns ⊢
    cases stopped : (analyzeUnit registry paths crate memory u).stopped with
    | some fault => simp [stopped] at returns
    | none =>
      simp only [stopped] at returns ⊢
      obtain ⟨later, met, aborted⟩ := ih returns
      refine ⟨first.append later, fun key => ?_, ?_⟩
      · rw [met, mem_analyzeUnit_reported]
        simp only [List.mem_cons, exists_eq_or_imp, or_assoc]
      · rw [List.filter_append, List.flatMap_cons, aborted, analyzeUnit_aborts]

end

/-! ## Analyses one after another -/

/-- What is to be analysed, and by which rules and paths. -/
structure Inquiry where
  registry : Registry
  paths : PathTable
  crate : Crate

namespace Inquiry

/-- The analysis, which remembers what was reported before. -/
def analyze (i : Inquiry) (memory : Memory) : Findings Guard.Fault :=
  analyzeCrate i.registry i.paths memory i.crate

/-- Analyses in order; each remembers what those before it reported. -/
def analyzeAll (memory : Memory) : List Inquiry → List (Findings Guard.Fault)
  | [] => []
  | i :: rest =>
    let found := i.analyze memory
    found :: analyzeAll found.memory rest

/-- An expression of this text fails, of a rule of this name: in some unit, the rule comes to it at a node,
all offers before this one are answered, and it has no value. -/
def Fails (i : Inquiry) (name text : String) : Prop :=
  ∃ u ∈ i.crate.units, ∃ before e rule after, offers i.registry u.body = before ++ (e, rule) :: after ∧
    (∀ q ∈ before, ∃ outcome, q.2.evaluate q.1 ⟨u, i.crate, i.paths⟩ = .ok outcome) ∧
    rule.name = name ∧ rule.FailsAt e ⟨u, i.crate, i.paths⟩ text

variable {i : Inquiry} {memory : Memory}

/-- Whether an analysis comes to its end does not depend on what was reported before. -/
theorem analyze_stopped_iff : (i.analyze memory).stopped = none ↔
    ∀ u ∈ i.crate.units, ∃ ds, unitResult i.registry i.paths i.crate u = .ok ds := analyzeUnits_stopped_iff

theorem tells (returns : (i.analyze memory).stopped = none) :
    (i.analyze memory).Tells i.registry i.paths i.crate memory i.crate.units := tells_analyzeUnits returns

/-- In a unit that gives something, what fails are the broken expressions. -/
theorem fails_iff (returns : (i.analyze memory).stopped = none) (name text : String) :
    i.Fails name text ↔ ∃ u ∈ i.crate.units,
      (name, text) ∈ brokenKeys ⟨u, i.crate, i.paths⟩ (offers i.registry u.body) := by
  refine exists_congr fun u => and_congr_right fun hu => ?_
  have answers := exists_unitResult_iff.1 (analyze_stopped_iff.1 returns u hu)
  simp only [mem_brokenKeys_iff, Prod.exists]
  refine exists_congr fun before => exists₃_congr fun e rule after => ?_
  refine and_congr_right fun split => and_congr_right fun earlier => and_congr_right fun _ => ?_
  exact (exists_broken_iff fun fault => answers before (e, rule) after split earlier fault).symm

theorem reported_iff (returns : (i.analyze memory).stopped = none) (name text : String) :
    (name, text) ∈ (i.analyze memory).memory.reported ↔ (name, text) ∈ memory.reported ∨ i.Fails name text := by
  rw [(tells returns).met, fails_iff returns]

/-- Analyses in a row report what fails in some of them. -/
theorem grows_analyzeAll {inquiries : List Inquiry}
    (returns : ∀ found ∈ analyzeAll memory inquiries, found.stopped = none) :
    ∃ m', memory.Grows ((analyzeAll memory inquiries).flatMap (·.warnings)) m' ∧
      ∀ name text, (name, text) ∈ m'.reported ↔
        (name, text) ∈ memory.reported ∨ ∃ i ∈ inquiries, i.Fails name text := by
  induction inquiries generalizing memory with
  | nil => exact ⟨memory, grows_of_silent rfl memory, by simp⟩
  | cons i rest ih =>
    obtain ⟨first, later⟩ := List.forall_mem_cons.1 returns
    obtain ⟨m', grows, reported⟩ := ih later
    refine ⟨m', (tells first).grows.append grows, fun name text => ?_⟩
    rw [reported, reported_iff first]
    simp only [List.mem_cons, exists_eq_or_imp, or_assoc]

end Inquiry

/-- Over analyses that all come to their ends, one after the other and with nothing reported before, the
number of reports of an expression of a rule is one if it fails in some of them, and zero otherwise. An
analysis that comes to its end does so again when it is repeated, whatever was reported before. Then it
gives the same diagnoses, reports no broken expression, and gives the same units up. -/
theorem reported_once (inquiries : List Inquiry)
    (returns : ∀ found ∈ Inquiry.analyzeAll .empty inquiries, found.stopped = none) :
    let warnings := (Inquiry.analyzeAll .empty inquiries).flatMap (·.warnings)
    (∀ name text,
      ((∃ i ∈ inquiries, i.Fails name text) → (reports warnings).count (name, text) = 1) ∧
      ((¬∃ i ∈ inquiries, i.Fails name text) → (reports warnings).count (name, text) = 0)) ∧
    ∀ (i : Inquiry) (memory : Memory),
      let first := i.analyze memory
      let second := i.analyze first.memory
      first.stopped = none → second.stopped = none ∧ second.diagnoses = first.diagnoses ∧
        reports second.warnings = [] ∧
        second.warnings.filter Warning.isAborted = first.warnings.filter Warning.isAborted := by
  intro warnings
  refine ⟨fun name text => ?_, fun i memory => ?_⟩
  · obtain ⟨m', grows, reported⟩ := Inquiry.grows_analyzeAll returns
    have met : (name, text) ∈ reports warnings ↔ ∃ i ∈ inquiries, i.Fails name text := by
      have unknown : (name, text) ∉ Memory.empty.reported := List.not_mem_nil
      have remembered := grows.remembered (name, text)
      rw [reported, or_iff_right unknown, or_iff_right unknown] at remembered
      exact remembered.symm
    rw [← met]
    exact ⟨List.count_eq_one_of_mem grows.once, List.count_eq_zero.2⟩
  · intro first second returned
    have same : second.result = first.result :=
      (analyzeCrate_result ..).trans (analyzeCrate_result i.registry i.paths memory i.crate).symm
    obtain ⟨returned', diagnoses⟩ : second.stopped = none ∧ second.diagnoses = first.diagnoses := by
      rw [← Findings.result_eq_ok_iff, same, Findings.result_eq_ok_iff]
      exact ⟨returned, rfl⟩
    obtain ⟨-, met, aborted⟩ : first.Tells .. := Inquiry.tells returned
    obtain ⟨grows, met', aborted'⟩ : second.Tells .. := Inquiry.tells returned'
    refine ⟨returned', diagnoses, ?_, aborted'.trans aborted.symm⟩
    -- what the second analysis would report, the first has reported or met
    refine List.eq_nil_iff_forall_not_mem.2 fun key hm => grows.new key hm ?_
    rcases (met' key).1 ((grows.remembered key).2 (.inr hm)) with known | again
    · exact known
    · exact (met key).2 (.inr again)

/-! ## The same crate twice -/

/-- The analysis of a crate with a broken expression, in a unit that is given up. -/
def nameTest : Inquiry := ⟨nameTestRegistry, .standard, halfSoundCrate⟩

theorem nameTest_units : ∀ u ∈ nameTest.crate.units,
    ∃ ds, unitResult nameTest.registry nameTest.paths nameTest.crate u = .ok ds := by
  have declared : ∀ rule ∈ nameTestRegistry.rules, rule.Declared ∧ rule.isByteless = true :=
    List.forall_mem_cons.2 ⟨⟨.inl rfl, rfl⟩,
      List.forall_mem_singleton.2 ⟨declared_exprRule nameTest_ofText, rfl⟩⟩
  exact fun u _ => exists_unitResult reachable_nameTestRegistry declared _ _ u

theorem nameTest_fails : nameTest.Fails "test" "x" := by
  have offered : offers nameTestRegistry halfSound.body = [] ++
      [(halfSound.body, exprRule "x" (some (.name "x"))), (zeroedCall 2, invalidRef), (zeroedCall 4, invalidRef)] := by
    rw [reachable_nameTestRegistry.offers_eq]
    simp [Registry.pairs, Expr.preorder_eq, Expr.parts, halfSound, zeroedCall, nameTestRegistry, invalidRef, exprRule]
  have comes : (exprRule "x" (some (.name "x"))).ComesTo halfSound.body ⟨halfSound, halfSoundCrate, .standard⟩ "x"
      (.name "x") {} := ⟨[], [], rfl, .nil _⟩
  exact ⟨halfSound, List.mem_cons_self, [], _, _, _, offered, List.forall_mem_nil _, rfl, _, _, _, comes, rfl⟩

/-- Both analyses meet the broken expression; it is reported once. -/
theorem nameTest_reported_once :
    (∀ found ∈ Inquiry.analyzeAll .empty [nameTest, nameTest], found.stopped = none) ∧
    (reports ((Inquiry.analyzeAll .empty [nameTest, nameTest]).flatMap (·.warnings))).count ("test", "x") = 1 ∧
    let first := nameTest.analyze .empty
    let second := nameTest.analyze first.memory
    second.diagnoses = first.diagnoses ∧ reports second.warnings = [] := by
  have returns : ∀ memory, (nameTest.analyze memory).stopped = none := fun memory =>
    Inquiry.analyze_stopped_iff.2 nameTest_units
  have all : ∀ found ∈ Inquiry.analyzeAll .empty [nameTest, nameTest], found.stopped = none :=
    List.forall_mem_cons.2 ⟨returns _, List.forall_mem_singleton.2 (returns _)⟩
  obtain ⟨counts, again⟩ := reported_once [nameTest, nameTest] all
  obtain ⟨-, diagnoses, silent, -⟩ := again nameTest .empty (returns _)
  exact ⟨all, (counts "test" "x").1 ⟨nameTest, List.mem_cons_self, nameTest_fails⟩, diagnoses, silent⟩

end ChainLint
