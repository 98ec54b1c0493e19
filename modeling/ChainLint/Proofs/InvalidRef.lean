import ChainLint.Proofs.Exact
/-!
# References made from memory that is zero or not initialized

`invalidRef_exact`: with the standard registry a unit gives the internal
diagnosis if and only if one of its candidates is fatal, and otherwise one
finding for each candidate that `Finds` describes. The guards are checked in
order, so a callee is looked up only where the node is a reference: a broken
callee anywhere else is no fault.
-/

namespace ChainLint

/-! ## What the rule looks for -/

/-- A call without arguments whose callee is a path. -/
structure Candidate (e callee : Expr) : Prop where
  isCall : e.kind = "Call"
  hasCallee : e.callee = some callee
  isPath : callee.kind = "Path"
  noArgs : e.args = []

/-- Inference recorded a type for the node that the table of types lacks. -/
def RecordsMissing (c : Crate) (e : Expr) : Prop :=
  ∃ ty, c.types.nodeTypes.get? e.id = some ty ∧ c.types.types.get? ty = none

/-- Inference recorded a reference for the node. -/
def RecordsRef (c : Crate) (e : Expr) : Prop :=
  ∃ ty entry, c.types.nodeTypes.get? e.id = some ty ∧ c.types.types.get? ty = some entry ∧
    entry.kind = "ref"

/-- A candidate at which the crate contradicts itself. -/
inductive Fatal (c : Crate) (e : Expr) : Prop
  | type {callee : Expr} (candidate : Candidate e callee) (missing : RecordsMissing c e)
  | callee {callee : Expr} {fault : Malformed} (candidate : Candidate e callee)
      (ref : RecordsRef c e) (broken : c.resolve (some callee) = .error fault)

theorem Fatal.isCall {c : Crate} {e : Expr} (h : Fatal c e) : e.kind = "Call" := by
  cases h with
  | type candidate _ => exact candidate.isCall
  | callee candidate _ _ => exact candidate.isCall

/-- What the rule says of memory of each tag. -/
def memorySummaries : List (String × String) :=
  [("zero_fill", "null reference"), ("uninit", "uninitialized reference")]

/-- A text under a name, if there is one that is not empty. -/
def optionalText (name : String) : Option String → Record
  | none => []
  | some text => if text = "" then [] else [(name, .text text)]

/-- The finding at a candidate whose callee has an identity. -/
def memoryFinding (u : CodeUnit) (e callee : Expr) (path : SymbolPath) (summary : String) :
    Diagnosis where
  rule := "invalid_ref"
  category := "correctness"
  severity := "error"
  summary
  help := "Creation of a null or uninitialized reference is undefined behavior; " ++
    "see https://doc.rust-lang.org/reference/behavior-considered-undefined.html"
  location := (e.span.getD ⟨u.file, 0, 0, 0, 0⟩).record
  unit := some u.name
  internal := false
  extras := [("callee", .text path.text)] ++ optionalText "callee_text" callee.path ++
    [("shape", .text "reference")] ++ optionalText "snippet" e.text

/-- What is found at a node: a candidate that is a reference and whose callee has an identity of one
of the tags. -/
inductive Finds (c : Crate) (paths : PathTable) (u : CodeUnit) (e : Expr) : Diagnosis → Prop
  | found {callee : Expr} {path : SymbolPath} {tag summary : String} (candidate : Candidate e callee)
      (ref : RecordsRef c e) (resolves : c.resolve (some callee) = .ok (some path))
      (tagged : paths.lookup path = some tag) (known : (tag, summary) ∈ memorySummaries) :
      Finds c paths u e (memoryFinding u e callee path summary)

theorem Finds.internal_eq {c : Crate} {paths : PathTable} {u : CodeUnit} {e : Expr} {d : Diagnosis}
    (h : Finds c paths u e d) : d.internal = false := by
  obtain ⟨-, -, -, -, -⟩ := h
  rfl

/-! ## The shape of a node -/

variable {c : Crate} {paths : PathTable} {u : CodeUnit} {e callee : Expr}

theorem ofKind_eq_reference_iff {kind : String} : Shape.ofKind kind = .reference ↔ kind = "ref" := by
  unfold Shape.ofKind referenceKind
  split_ifs <;> simp_all

theorem shapeOf_error_iff : (∃ fault, c.types.shapeOf e.id = .error fault) ↔ RecordsMissing c e := by
  unfold TypeTable.shapeOf TypeTable.ofNode RecordsMissing
  cases c.types.nodeTypes.get? e.id with
  | none => simp [bind, Except.bind, pure, Except.pure]
  | some ty => cases h : c.types.types.get? ty <;> simp [bind, Except.bind, pure, Except.pure, h]

theorem shapeOf_reference_iff : c.types.shapeOf e.id = .ok .reference ↔ RecordsRef c e := by
  unfold TypeTable.shapeOf TypeTable.ofNode RecordsRef
  cases c.types.nodeTypes.get? e.id with
  | none => simp [bind, Except.bind, pure, Except.pure]
  | some ty =>
    cases h : c.types.types.get? ty <;>
      simp [bind, Except.bind, pure, Except.pure, h, ofKind_eq_reference_iff]

/-! ## The rule at a node -/

/-- Where the node is no candidate, nothing is looked up. -/
theorem evaluate_of_no_candidate (ctx : Context) (h : ∀ callee, ¬Candidate e callee) :
    ∃ step, invalidRef.evaluate e ctx = .ok (.declined step) := by
  by_cases arity : e.kind = "Call" ∧ e.callee.isSome ∧ (e.args.length : Int) = 0
  · obtain ⟨isCall, hc, hargs⟩ := arity
    obtain ⟨callee, hasCallee⟩ := Option.isSome_iff_exists.1 hc
    have noArgs : e.args = [] := List.length_eq_zero_iff.1 (by exact_mod_cast hargs)
    have notPath : callee.kind ≠ "Path" := fun isPath => h callee ⟨isCall, hasCallee, isPath, noArgs⟩
    refine ⟨"callee_is_path", ?_⟩
    simp [Rule.evaluate, invalidRef, Rule.run, Guard.check, isCall, hasCallee, noArgs, notPath, Guard.name]
  · refine ⟨"call_arity", ?_⟩
    simp only [Rule.evaluate, invalidRef, Rule.run, Guard.check, arity, if_false, Guard.name]

/-- What the guards find at a candidate that is a reference and whose callee has an identity. -/
def foundBindings (paths : PathTable) (callee : Expr) (path : SymbolPath) : Bindings :=
  ⟨some callee, some .reference, some (path, paths.lookup path)⟩

/-- The order of the look-ups at a candidate: its type first, its callee only if it is a reference. -/
theorem evaluate_of_candidate (h : Candidate e callee) :
    invalidRef.evaluate e ⟨u, c, paths⟩ =
      match c.types.shapeOf e.id with
      | .error fault => .error (.malformed fault)
      | .ok .reference =>
        match c.resolve (some callee) with
        | .error fault => .error (.malformed fault)
        | .ok none => .ok (.declined "resolves_callee")
        | .ok (some path) => invalidRef.conclude e ⟨u, c, paths⟩ (foundBindings paths callee path)
      | .ok _ => .ok (.declined "result_shape") := by
  obtain ⟨isCall, hasCallee, isPath, noArgs⟩ := h
  -- the first two guards look nothing up
  have hr : invalidRef.evaluate e ⟨u, c, paths⟩ =
      invalidRef.run e ⟨u, c, paths⟩ { callee := some callee } [.resultShape .reference, .resolves] := by
    simp [Rule.evaluate, invalidRef, Rule.run, Guard.check, isCall, hasCallee, noArgs, isPath]
  rw [hr]
  cases hs : c.types.shapeOf e.id with
  | error fault => simp only [Rule.run, Guard.check, hs]; rfl
  | ok shape =>
    cases shape with
    | reference =>
      have hr : invalidRef.run e ⟨u, c, paths⟩ { callee := some callee } [.resultShape .reference, .resolves] =
          invalidRef.run e ⟨u, c, paths⟩ { callee := some callee, shape := some .reference } [.resolves] := by
        simp only [Rule.run, Guard.check, hs]
        rfl
      rw [hr]
      cases hc : c.resolve (some callee) with
      | error fault => simp only [Rule.run, Guard.check, Option.some_or, hc]; rfl
      | ok path => cases path <;> simp only [Rule.run, Guard.check, Option.some_or, hc] <;> rfl
    | rawPointer => simp only [Rule.run, Guard.check, hs]; rfl
    | value => simp only [Rule.run, Guard.check, hs]; rfl
    | other => simp only [Rule.run, Guard.check, hs]; rfl

theorem summary_iff {tag summary : String} :
    Table.get? ⟨[(PathTable.zeroFillTag, "null reference"),
      (PathTable.uninitTag, "uninitialized reference")]⟩ tag = some summary ↔
      (tag, summary) ∈ memorySummaries := by
  simp only [Table.get?, Table.find?, PathTable.zeroFillTag, PathTable.uninitTag, memorySummaries]
  split_ifs <;> simp_all [eq_comm]

theorem filterMap_text (name : String) (text : Option String) :
    (text.toList.filterMap fun t => if t = "" then none else some (name, Datum.text t)) =
      optionalText name text := by
  cases text with
  | none => rfl
  | some t =>
    by_cases h : t = ""
    · simp [optionalText, h]
    · simp [optionalText, h]

theorem diagnose_foundBindings (paths : PathTable) (u : CodeUnit) (e callee : Expr) (path : SymbolPath)
    (summary : String) :
    invalidRef.diagnose e u (foundBindings paths callee path) summary =
      memoryFinding u e callee path summary := by
  simp only [Rule.diagnose, Rule.extras, memoryFinding, ← filterMap_text]
  rfl

theorem conclude_eq_of_known {path : SymbolPath} {tag summary : String}
    (tagged : paths.lookup path = some tag) (known : (tag, summary) ∈ memorySummaries) :
    invalidRef.conclude e ⟨u, c, paths⟩ (foundBindings paths callee path) =
      .ok (.matched (memoryFinding u e callee path summary)) := by
  have hs : invalidRef.classifier.summary? e ⟨u, c, paths⟩ (foundBindings paths callee path) =
      .ok (some summary) := by
    rw [← summary_iff.2 known]
    simp only [Classifier.summary?, invalidRef, foundBindings, Bindings.tag?, Option.bind_some, tagged]
  rw [Rule.conclude, hs, ← diagnose_foundBindings paths]
  rfl

theorem conclude_eq_of_unknown {path : SymbolPath}
    (unknown : ∀ tag summary, paths.lookup path = some tag → (tag, summary) ∉ memorySummaries) :
    invalidRef.conclude e ⟨u, c, paths⟩ (foundBindings paths callee path) =
      .ok (.declined classifyStep) := by
  have hs : invalidRef.classifier.summary? e ⟨u, c, paths⟩ (foundBindings paths callee path) =
      .ok none := by
    simp only [Classifier.summary?, invalidRef, foundBindings, Bindings.tag?, Option.bind_some]
    cases tagged : paths.lookup path with
    | none => rfl
    | some tag =>
      exact congrArg _ (Option.eq_none_iff_forall_ne_some.2 fun summary known =>
        unknown tag summary tagged (summary_iff.1 known))
  rw [Rule.conclude, hs]
  rfl

/-! ## Findings and fatal candidates -/

theorem evaluate_of_finds {d : Diagnosis} (h : Finds c paths u e d) :
    invalidRef.evaluate e ⟨u, c, paths⟩ = .ok (.matched d) := by
  obtain ⟨candidate, ref, resolves, tagged, known⟩ := h
  rw [evaluate_of_candidate candidate, shapeOf_reference_iff.2 ref]
  simp only [resolves, conclude_eq_of_known tagged known]

theorem evaluate_of_fatal (h : Fatal c e) :
    ∃ fault, invalidRef.evaluate e ⟨u, c, paths⟩ = .error (.malformed fault) := by
  cases h with
  | type candidate missing =>
    obtain ⟨fault, hs⟩ := shapeOf_error_iff.2 missing
    exact ⟨fault, by rw [evaluate_of_candidate candidate, hs]⟩
  | @callee callee fault candidate ref broken =>
    refine ⟨fault, ?_⟩
    rw [evaluate_of_candidate candidate, shapeOf_reference_iff.2 ref]
    simp only [broken]

/-- The three ways in which the rule answers: a finding, a contradiction, or nothing to report. -/
theorem evaluate_cases (c : Crate) (paths : PathTable) (u : CodeUnit) (e : Expr) :
    (∃ d, Finds c paths u e d ∧ invalidRef.evaluate e ⟨u, c, paths⟩ = .ok (.matched d)) ∨
    (Fatal c e ∧ ∃ fault, invalidRef.evaluate e ⟨u, c, paths⟩ = .error (.malformed fault)) ∨
    (∃ step, invalidRef.evaluate e ⟨u, c, paths⟩ = .ok (.declined step)) := by
  by_cases h : ∀ callee, ¬Candidate e callee
  · exact .inr (.inr (evaluate_of_no_candidate _ h))
  obtain ⟨callee, candidate⟩ := Classical.not_forall_not.1 h
  rw [evaluate_of_candidate candidate]
  cases hs : c.types.shapeOf e.id with
  | error fault =>
    exact .inr (.inl ⟨.type candidate (shapeOf_error_iff.1 ⟨fault, hs⟩), fault, rfl⟩)
  | ok shape =>
    cases shape with
    | reference =>
      have ref := shapeOf_reference_iff.1 hs
      cases hr : c.resolve (some callee) with
      | error fault => exact .inr (.inl ⟨.callee candidate ref hr, fault, rfl⟩)
      | ok identity =>
        cases identity with
        | none => exact .inr (.inr ⟨_, rfl⟩)
        | some path =>
          by_cases hk : ∃ tag summary, paths.lookup path = some tag ∧ (tag, summary) ∈ memorySummaries
          · obtain ⟨tag, summary, tagged, known⟩ := hk
            exact .inl ⟨_, .found candidate ref hr tagged known, conclude_eq_of_known tagged known⟩
          · exact .inr (.inr ⟨_, conclude_eq_of_unknown fun tag summary tagged known =>
              hk ⟨tag, summary, tagged, known⟩⟩)
    | rawPointer => exact .inr (.inr ⟨_, rfl⟩)
    | value => exact .inr (.inr ⟨_, rfl⟩)
    | other => exact .inr (.inr ⟨_, rfl⟩)

theorem finding_iff {d : Diagnosis} :
    finding? (invalidRef.evaluate e ⟨u, c, paths⟩) = some d ↔ Finds c paths u e d := by
  refine ⟨fun h => ?_, fun h => by rw [evaluate_of_finds h]; rfl⟩
  rcases evaluate_cases c paths u e with ⟨d', found, he⟩ | ⟨-, fault, he⟩ | ⟨step, he⟩ <;> rw [he] at h
  · cases h
    exact found
  · cases h
  · cases h

theorem malformed_iff :
    (∃ fault, invalidRef.evaluate e ⟨u, c, paths⟩ = .error (.malformed fault)) ↔ Fatal c e := by
  refine ⟨fun ⟨fault, h⟩ => ?_, evaluate_of_fatal⟩
  rcases evaluate_cases c paths u e with ⟨d, -, he⟩ | ⟨fatal, -⟩ | ⟨step, he⟩
  · cases he.symm.trans h
  · exact fatal
  · cases he.symm.trans h

theorem evaluate_ne_uncaught {fault : Guard.Fault} :
    invalidRef.evaluate e ⟨u, c, paths⟩ ≠ .error (.uncaught fault) := by
  intro h
  rcases evaluate_cases c paths u e with ⟨d, -, he⟩ | ⟨-, fault, he⟩ | ⟨step, he⟩ <;> cases he.symm.trans h

/-! ## A unit under the standard registry -/

theorem standard_offers (body : Expr) :
    offers Registry.standard body =
      (body.preorder.filter fun e => e.kind = "Call").map fun e => (e, invalidRef) := by
  rw [Registry.reachable_standard.offers_eq, Registry.pairs]
  induction body.preorder with
  | nil => rfl
  | cons e rest ih =>
    rw [List.flatMap_cons, ih, List.filter_cons]
    by_cases isCall : e.kind = "Call"
    · simp [Registry.standard, invalidRef, isCall]
    · simp [Registry.standard, invalidRef, isCall]

theorem mem_standard_offers {body : Expr} {p : Expr × Rule} :
    p ∈ offers Registry.standard body ↔ ∃ e ∈ body.preorder, e.kind = "Call" ∧ p = (e, invalidRef) := by
  rw [standard_offers]
  simp only [List.mem_map, List.mem_filter, decide_eq_true_eq, and_assoc, eq_comm (a := p)]

/-- What is no call has no finding, so all nodes may be asked. -/
theorem standard_findings (ctx : Context) (body : Expr) :
    ((offers Registry.standard body).filterMap fun p => finding? (answer ctx p)) =
      body.preorder.filterMap fun e => finding? (invalidRef.evaluate e ctx) := by
  rw [standard_offers, List.filterMap_map, List.filterMap_filter]
  congr 1
  funext e
  by_cases isCall : e.kind = "Call"
  · simp only [isCall, decide_true, if_true]
    rfl
  · obtain ⟨step, he⟩ := evaluate_of_no_candidate ctx fun callee candidate => isCall candidate.isCall
    rw [he]
    simp only [isCall, decide_false, Bool.false_eq_true, if_false]
    rfl

/-- With the standard registry every unit gets its diagnoses. It gives the internal diagnosis if and
only if some candidate is fatal, and otherwise what is found at its nodes, in document order. -/
theorem invalidRef_exact (c : Crate) (paths : PathTable) (memory : Memory) (u : CodeUnit) :
    let found := analyzeUnit Registry.standard paths c memory u
    found.stopped = none ∧
    ((∃ fault, found.diagnoses = [.ofMalformed u fault]) ↔ ∃ e ∈ u.body.preorder, Fatal c e) ∧
    ((¬∃ e ∈ u.body.preorder, Fatal c e) →
      ∃ findingAt : Expr → Option Diagnosis, (∀ e d, findingAt e = some d ↔ Finds c paths u e d) ∧
        found.diagnoses = u.body.preorder.filterMap findingAt) := by
  intro found
  have caught : ∀ p ∈ offers Registry.standard u.body, ∀ fault,
      answer ⟨u, c, paths⟩ p ≠ .error (.uncaught fault) := by
    intro p hp fault
    obtain ⟨e, -, -, rfl⟩ := mem_standard_offers.1 hp
    exact evaluate_ne_uncaught
  have hs : found.stopped = none := stopped_eq_none caught
  have sound : (¬∃ e ∈ u.body.preorder, Fatal c e) →
      found.diagnoses = u.body.preorder.filterMap fun e => finding? (invalidRef.evaluate e ⟨u, c, paths⟩) := by
    intro hn
    rw [← standard_findings]
    refine unit_without_contradiction hs fun p hp fault ha => hn ?_
    obtain ⟨e, he, -, rfl⟩ := mem_standard_offers.1 hp
    exact ⟨e, he, malformed_iff.1 ⟨fault, ha⟩⟩
  refine ⟨hs, ⟨?_, ?_⟩, fun hn => ⟨_, fun e d => finding_iff, sound hn⟩⟩
  · -- what the rule finds is never an internal diagnosis
    rintro ⟨fault, hd⟩
    refine Classical.not_not.1 fun hn => ?_
    have hm : Diagnosis.ofMalformed u fault ∈ found.diagnoses := hd ▸ List.mem_singleton_self _
    rw [sound hn] at hm
    obtain ⟨e, -, he⟩ := List.mem_filterMap.1 hm
    cases (finding_iff.1 he).internal_eq
  · rintro ⟨e, he, fatal⟩
    obtain ⟨fault, ha⟩ := malformed_iff.2 fatal
    exact unit_meets_contradiction hs (mem_standard_offers.2 ⟨e, he, fatal.isCall, rfl⟩) ha

end ChainLint
