import ChainLint.Proofs.Exact
import ChainLint.Proofs.Searches
import ChainLint.Proofs.SingleUnit
/-!
# Which faults end an analysis

A rule that is always there or that a document describes comes to an
expression after the guards before it have passed. If the expression has no
value, the guard does not hold (`evaluate_of_broken`), with one exception: one
of its searches asks for a number that is no byte (`evaluate_uncaught_iff`).
Rules without literals of bytes make no such search, so an analysis with them
always ends. `analysis_answers` puts this together.
-/

namespace ChainLint

/-! ## Bytes -/

/-- Whether the expression of a guard, if it has one, is without bytes. -/
def Guard.isByteless : Guard → Bool
  | .expr _ (some t) => t.isByteless
  | _ => true

/-- Whether the expressions of a rule are without bytes. -/
def Rule.isByteless (r : Rule) : Bool := r.guards.all Guard.isByteless

theorem isByteless_value (b : Bindings) : b.value.isByteless = true := by
  obtain ⟨callee, shape, symbol⟩ := b
  rw [Bindings.value, Guard.Value.isByteless, Guard.Value.entriesByteless_iff]
  intro e he
  rcases List.mem_append.1 he with he | he
  · rcases List.mem_append.1 he with he | he
    · obtain ⟨c, -, rfl⟩ := List.mem_map.1 he
      exact ⟨rfl, rfl⟩
    · obtain ⟨s, -, rfl⟩ := List.mem_map.1 he
      exact ⟨rfl, rfl⟩
  · obtain ⟨s, -, he⟩ := List.mem_flatMap.1 he
    rcases List.mem_cons.1 he with rfl | he
    · exact ⟨rfl, rfl⟩
    · rw [List.mem_singleton.1 he]
      exact ⟨rfl, Guard.isByteless_optText _ _⟩

/-- No name of a guard expression stands for bytes. -/
theorem byteless_scope (b : Bindings) (e : Expr) (u : CodeUnit) :
    ∀ entry ∈ b.scope e u, entry.2.isByteless = true := by
  have shape : ((b.shape.map Guard.shapeText).getD .none).isByteless = true := by
    cases b.shape <;> rfl
  have identity : ((b.symbol.map fun s => Guard.Value.symbol s.1).getD .none).isByteless = true := by
    cases b.symbol <;> rfl
  have tag : (Bindings.tagValue b.tag?).isByteless = true := Guard.isByteless_optText _ _
  intro entry hm
  simp only [Bindings.scope, List.mem_cons, List.not_mem_nil, or_false] at hm
  rcases hm with rfl | rfl | rfl | rfl | rfl | rfl
  · rfl
  · exact isByteless_value b
  · rfl
  · exact shape
  · exact identity
  · exact tag

/-! ## Guards in order -/

/-- Guards that all pass at a node, from the bindings before them to those after. -/
inductive Passes (e : Expr) (ctx : Context) : Bindings → List Guard → Bindings → Prop
  | nil (b : Bindings) : Passes e ctx b [] b
  | cons {g : Guard} {rest : List Guard} {b b' b'' : Bindings} : g.check e ctx b = .ok (.passed b') →
      Passes e ctx b' rest b'' → Passes e ctx b (g :: rest) b''

/-- The evaluation of a rule comes to an expression: all guards before it pass and leave these
bindings. -/
def Rule.ComesTo (r : Rule) (e : Expr) (ctx : Context) (text : String) (t : Guard.Term) (b : Bindings) : Prop :=
  ∃ before after, r.guards = before ++ .expr text (some t) :: after ∧ Passes e ctx {} before b

/-- An expression that the evaluation of a rule comes to makes a search for a number that is no byte
among bytes. -/
def Rule.AsksNoByte (r : Rule) (e : Expr) (ctx : Context) : Prop :=
  ∃ text t b, r.ComesTo e ctx text t b ∧
    ∃ p ∈ Guard.searches (b.scope e ctx.unit) t, Guard.AsksNoByte p.1 p.2

section
variable {r : Rule} {e : Expr} {ctx : Context} {b b' : Bindings}

/-- Guards that pass hand over to those after them. -/
theorem Passes.run_append {before : List Guard} (h : Passes e ctx b before b') (after : List Guard) :
    r.run e ctx b (before ++ after) = r.run e ctx b' after := by
  induction h with
  | nil => rfl
  | cons hg _ ih =>
    rw [List.cons_append, Rule.run, hg]
    exact ih

theorem Rule.ComesTo.evaluate_eq {text : String} {t : Guard.Term} {fault : Guard.Fault}
    (h : r.ComesTo e ctx text t b) (hf : Guard.eval (b.scope e ctx.unit) t = .error fault) :
    r.evaluate e ctx = if fault.isCaught then .ok (.broken text fault) else .error (.uncaught fault) := by
  obtain ⟨before, after, hg, hp⟩ := h
  rw [Rule.evaluate, hg, hp.run_append, Rule.run, Guard.check, Guard.checkTerm, hf]
  cases hc : fault.isCaught <;> simp [hc]

/-- An expression without a value is a guard that does not hold, unless it is for want of a byte. -/
theorem evaluate_of_broken {text : String} {t : Guard.Term} {fault : Guard.Fault}
    (h : r.ComesTo e ctx text t b) (hf : Guard.eval (b.scope e ctx.unit) t = .error fault)
    (hn : fault ≠ .noByte) : r.evaluate e ctx = .ok (.broken text fault) := by
  have hc : fault.isCaught = true := by
    rw [← Bool.not_eq_false]
    exact fun hc => hn (Guard.eval_uncaught hf hc)
  rw [h.evaluate_eq hf, if_pos hc]

/-- Of the guards that documents describe only expressions end with a fault that does not count as
not holding. -/
theorem check_uncaught {g : Guard} (hg : g.isCustom = false) {fault : Guard.Fault}
    (h : g.check e ctx b = .error (.uncaught fault)) :
    ∃ text t, g = .expr text (some t) ∧ Guard.eval (b.scope e ctx.unit) t = .error fault := by
  cases g with
  | callArity count => cases h
  | calleeIsPath =>
    simp only [Guard.check] at h
    split at h <;> cases h
  | resultShape shape =>
    simp only [Guard.check] at h
    cases hs : ctx.crate.types.shapeOf e.id <;> rw [hs] at h <;> cases h
  | resolves =>
    simp only [Guard.check] at h
    cases hr : ctx.crate.resolve (b.callee.or e.callee) with
    | error fault' =>
      rw [hr] at h
      cases h
    | ok path =>
      rw [hr] at h
      cases path <;> cases h
  | expr text term =>
    cases term with
    | none => cases h
    | some t =>
      refine ⟨text, t, rfl, ?_⟩
      simp only [Guard.check, Guard.checkTerm] at h
      split at h
      · cases h
      · next fault' he =>
        split at h
        · cases h
        · cases h
          exact he
  | custom name holds => cases hg

theorem conclude_ne_error (hr : r.classifier.isCustom = false) (halt : Halt) :
    r.conclude e ctx b ≠ .error halt := by
  have hs : ∃ summary, r.classifier.summary? e ctx b = .ok summary := by
    cases hk : r.classifier with
    | byTag summaries => exact ⟨_, rfl⟩
    | constant summary => exact ⟨_, rfl⟩
    | custom summary =>
      rw [hk] at hr
      cases hr
  obtain ⟨summary, hs⟩ := hs
  rw [Rule.conclude, hs]
  intro h
  cases summary <;> cases h

/-- A chain that ends with an uncaught fault has come to the expression at fault. -/
theorem run_uncaught (hr : r.classifier.isCustom = false) {gs : List Guard}
    (hgs : ∀ g ∈ gs, g.isCustom = false) {fault : Guard.Fault}
    (h : r.run e ctx b gs = .error (.uncaught fault)) :
    ∃ before text t after b', gs = before ++ .expr text (some t) :: after ∧ Passes e ctx b before b' ∧
      Guard.eval (b'.scope e ctx.unit) t = .error fault := by
  -- on the guards: those passed so far are the ones before the expression at fault
  induction gs generalizing b with
  | nil => exact absurd h (conclude_ne_error hr _)
  | cons g rest ih =>
    obtain ⟨hg, hrest⟩ := List.forall_mem_cons.1 hgs
    rw [Rule.run] at h
    cases hc : g.check e ctx b with
    | error halt =>
      rw [hc] at h
      cases h
      obtain ⟨text, t, rfl, hf⟩ := check_uncaught hg hc
      exact ⟨[], text, t, rest, b, rfl, .nil b, hf⟩
    | ok verdict =>
      rw [hc] at h
      cases verdict with
      | passed b' =>
        obtain ⟨before, text, t, after, b'', rfl, hp, hf⟩ := ih hrest h
        exact ⟨g :: before, text, t, after, b'', rfl, .cons hc hp, hf⟩
      | failed => cases h
      | broken text fault' => cases h

/-- A rule ends with a fault that does not count as not holding if and only if an expression it comes
to asks for a number that is no byte. -/
theorem evaluate_uncaught_iff (hr : r.Plain) {fault : Guard.Fault} :
    r.evaluate e ctx = .error (.uncaught fault) ↔ fault = .noByte ∧ r.AsksNoByte e ctx := by
  constructor
  · intro h
    obtain ⟨before, text, t, after, b', hg, hp, hf⟩ := run_uncaught hr.classifier hr.guards h
    have comes : r.ComesTo e ctx text t b' := ⟨before, after, hg, hp⟩
    -- a fault that counts as not holding would have made a non-match of the guard
    have hc : fault.isCaught = false := by
      rw [← Bool.not_eq_true]
      intro hc
      rw [comes.evaluate_eq hf, if_pos hc] at h
      cases h
    obtain rfl := Guard.eval_uncaught hf hc
    exact ⟨rfl, text, t, b', comes, Guard.eval_noByte_iff.1 hf⟩
  · rintro ⟨rfl, text, t, b', comes, hs⟩
    rw [comes.evaluate_eq (Guard.eval_noByte_iff.2 hs)]
    rfl

/-- A rule without literals of bytes makes no such search. -/
theorem Rule.AsksNoByte.isByteless_eq (h : r.AsksNoByte e ctx) : r.isByteless = false := by
  obtain ⟨text, t, b, ⟨before, after, hg, -⟩, hs⟩ := h
  rw [Rule.isByteless, hg, List.all_eq_false]
  refine ⟨.expr text (some t), by simp, fun ht => ?_⟩
  exact absurd (Guard.isCaught_of_byteless (byteless_scope b e ctx.unit) ht (Guard.eval_noByte_iff.2 hs)) nofun

end

/-! ## Analyses -/

section
variable {registry : Registry} {paths : PathTable} {crate : Crate}

/-- A unit gives diagnoses if and only if no pair ends with a fault that does not count as not
holding before some pair meets a contradiction. -/
theorem exists_unitResult_iff {u : CodeUnit} :
    (∃ ds, unitResult registry paths crate u = .ok ds) ↔
      ∀ before p after, offers registry u.body = before ++ p :: after →
        (∀ q ∈ before, ∃ outcome, answer ⟨u, crate, paths⟩ q = .ok outcome) →
        ∀ fault, answer ⟨u, crate, paths⟩ p ≠ .error (.uncaught fault) := by
  have answers : ∀ q, halt? (answer ⟨u, crate, paths⟩ q) = none ↔
      ∃ outcome, answer ⟨u, crate, paths⟩ q = .ok outcome := by
    intro q
    cases answer ⟨u, crate, paths⟩ q <;> simp [halt?]
  have stops : (∃ ds, unitResult registry paths crate u = .ok ds) ↔
      ∀ fault, firstHalt? ⟨u, crate, paths⟩ (offers registry u.body) ≠ some (.uncaught fault) := by
    rw [unitResult, ← firstHalt?]
    cases firstHalt? ⟨u, crate, paths⟩ (offers registry u.body) with
    | none => simp [settle]
    | some halt => cases halt <;> simp [settle]
  rw [stops]
  simp only [firstHalt?, ne_eq, List.findSome?_eq_some_iff, answers]
  constructor
  · intro h before p after ho hb fault ha
    exact h fault ⟨before, p, after, ho, by rw [ha]; rfl, hb⟩
  · rintro h fault ⟨before, p, after, ho, ha, hb⟩
    refine h before p after ho hb fault ?_
    cases hp : answer ⟨u, crate, paths⟩ p with
    | ok outcome =>
      rw [hp] at ha
      cases ha
    | error halt =>
      rw [hp] at ha
      cases ha
      rfl

theorem exists_unitResult (hr : registry.Reachable)
    (hd : ∀ rule ∈ registry.rules, rule.Declared ∧ rule.isByteless = true) (paths : PathTable)
    (crate : Crate) (u : CodeUnit) : ∃ ds, unitResult registry paths crate u = .ok ds := by
  refine exists_unitResult_iff.2 fun before p after ho _ fault ha => ?_
  have hp : p ∈ offers registry u.body := by simp [ho]
  obtain ⟨declared, byteless⟩ := hd p.2 (hr.rule_of_offer hp)
  have hb := ((evaluate_uncaught_iff declared.plain).1 ha).2.isByteless_eq
  rw [byteless] at hb
  cases hb

/-- A crate gives diagnoses if and only if each of its units does. -/
theorem exists_crateAnalysis_iff {memory : Memory} {jobs : Int} :
    (∃ ds, ∀ r, CrateAnalysis registry paths crate memory jobs r ↔ r = .ok ds) ↔
      ∀ u ∈ crate.units, ∃ ds, unitResult registry paths crate u = .ok ds := by
  simp only [crateAnalysis_iff]
  constructor
  · rintro ⟨ds, h⟩ u hu
    have hg := (gather_result_eq_ok_iff (analyzeUnit registry paths crate .empty) crate.units ds).1
      (by simpa only [analyzeUnit_result] using (h _).1 rfl)
    exact analyzeUnit_stopped_iff.1 (hg.1 u hu)
  · intro h
    exact ⟨_, fun r => by rw [gather_units_of_ok h]⟩

end

/-- At every node a rule that is always there or that a document describes does the following. If it
comes to an expression that has no value, the guard does not hold, unless that is for want of a byte.
It ends with a fault that does not count as not holding if and only if it comes to an expression with
a search for a number that is no byte, and such an expression has a literal of bytes. The analysis of
a crate gives diagnoses, whatever was reported before and however many workers there are, if and only
if in no unit a pair of a node and a rule does this after pairs that all answer. -/
theorem analysis_answers {registry : Registry} (hr : registry.Reachable)
    (hd : ∀ rule ∈ registry.rules, rule.Declared) (paths : PathTable) (crate : Crate) :
    (∀ rule ∈ registry.rules, ∀ (e : Expr) (ctx : Context),
      (∀ text t b fault, rule.ComesTo e ctx text t b → Guard.eval (b.scope e ctx.unit) t = .error fault →
        fault ≠ .noByte → rule.evaluate e ctx = .ok (.broken text fault)) ∧
      (∀ fault, rule.evaluate e ctx = .error (.uncaught fault) ↔ fault = .noByte ∧ rule.AsksNoByte e ctx) ∧
      (rule.AsksNoByte e ctx → rule.isByteless = false)) ∧
    ∀ (memory : Memory) (jobs : Int),
      (∃ ds, ∀ r, CrateAnalysis registry paths crate memory jobs r ↔ r = .ok ds) ↔
        ∀ u ∈ crate.units, ∀ before p after, registry.pairs u.body = before ++ p :: after →
          (∀ q ∈ before, ∃ outcome, q.2.evaluate q.1 ⟨u, crate, paths⟩ = .ok outcome) →
          ¬p.2.AsksNoByte p.1 ⟨u, crate, paths⟩ := by
  refine ⟨fun rule hm e ctx => ⟨fun text t b fault => evaluate_of_broken,
    fun fault => evaluate_uncaught_iff (hd rule hm).plain, Rule.AsksNoByte.isByteless_eq⟩,
    fun memory jobs => ?_⟩
  simp only [exists_crateAnalysis_iff, exists_unitResult_iff, hr.offers_eq]
  refine forall₂_congr fun u _ => forall₃_congr fun before p after => forall₂_congr fun ho _ => ?_
  have hp : p ∈ registry.pairs u.body := by simp [ho]
  have h : ∀ fault, answer ⟨u, crate, paths⟩ p = .error (.uncaught fault) ↔ _ :=
    fun fault => evaluate_uncaught_iff (hd p.2 (Registry.rule_of_pair hp)).plain
  simp only [ne_eq, h, not_and, forall_eq]

/-! ## A rule with one expression -/

/-- A rule for blocks whose one guard is an expression, as a document describes it. -/
def exprEntries (text : String) : List (Datum × Datum) :=
  [(.text "name", .text "test"), (.text "category", .text "style"), (.text "node_kinds", .text "Block"),
   (.text "guards", .list [.map [(.text "expr", .text text)]]),
   (.text "classify", .map [(.text "zero_fill", .text "zeros")])]

/-- The same rule as it is read. -/
def exprRule (text : String) (term : Option Guard.Term) : Rule where
  name := "test"
  category := "style"
  nodeKinds := ["Block"]
  guards := [.expr text term]
  classifier := .byTag ⟨[("zero_fill", "zeros")]⟩
  severity := "warning"

theorem exprEntries_fields (text : String) :
    Datum.field? "name" (exprEntries text) = some (.text "test") ∧
    Datum.field? "category" (exprEntries text) = some (.text "style") ∧
    Datum.field? "node_kinds" (exprEntries text) = some (.text "Block") ∧
    Datum.fieldItems (Datum.field? "guards" (exprEntries text)) =
      .ok [.map [(.text "expr", .text text)]] ∧
    Datum.field? "classify" (exprEntries text) = some (.map [(.text "zero_fill", .text "zeros")]) :=
  ⟨rfl, rfl, rfl, rfl, rfl⟩

theorem ofEntries_exprEntries {text : String} {term : Option Guard.Term} (h : Guard.ofText text = .ok term) :
    Rule.ofEntries "m" (exprEntries text) = .ok (exprRule text term) := by
  obtain ⟨name, category, nodeKinds, guards, classify⟩ := exprEntries_fields text
  have missing : Rule.missingFields (exprEntries text) = [] := rfl
  have severity : Rule.readSeverity "test" "m" (exprEntries text) = .ok none := rfl
  have read : Rule.readGuards "test" "m" [.map [(.text "expr", .text text)]] = .ok [.expr text term] := by
    simp only [Rule.readGuards, Rule.readGuard, Datum.core, Datum.display, Rule.guard, h]
    rfl
  have kinds : sortedSet (Datum.textList (.text "Block")) = ["Block"] := by decide +kernel
  rw [Rule.ofEntries]
  simp only [missing, name, category, nodeKinds, guards, classify, Option.getD_some, Datum.display,
    Datum.core, kinds, bind, Except.bind, pure, Except.pure, List.isEmpty_nil, Bool.not_true,
    Bool.false_eq_true, if_false, severity, read]
  rfl

theorem declared_exprRule {text : String} {term : Option Guard.Term} (h : Guard.ofText text = .ok term) :
    (exprRule text term).Declared :=
  .inr ⟨"m", exprEntries text, ofEntries_exprEntries h⟩

/-- The registry of this rule alone. -/
def exprRegistry (text : String) (term : Option Guard.Term) : Registry :=
  ⟨[exprRule text term], ⟨[("Block", [exprRule text term])]⟩⟩

theorem exprRegistry_ofRules (text : String) (term : Option Guard.Term) :
    Registry.ofRules [exprRule text term] = .ok (exprRegistry text term) := rfl

theorem reachable_exprRegistry (text : String) (term : Option Guard.Term) :
    (exprRegistry text term).Reachable :=
  Registry.reachable_ofRules (exprRegistry_ofRules text term)

/-- A document of one unit, which is an empty block. -/
def blockDoc : Datum :=
  .map [(.text "units", .list [.map [(.text "name", .text "main"),
    (.text "body", .map [(.text "id", .int 1), (.text "kind", .text "Block")])]])]

/-- The unit of this document. -/
def blockUnit : CodeUnit := ⟨"main", "m", { id := 1, kind := "Block" }⟩

/-- The crate of this document. -/
def blockCrate : Crate := ⟨"m", [blockUnit], ⟨.empty, .empty⟩, .empty, .empty⟩

theorem block_units : (Dump.codeUnits "m" 0 [.map [(.text "name", .text "main"),
      (.text "body", .map [(.text "id", .int 1), (.text "kind", .text "Block")])]]).run Dump.Filed.empty =
    .ok ([blockUnit], ⟨[1], .empty, .empty⟩) := by
  simp [Dump.codeUnits, Dump.codeUnit, Dump.node, Dump.calleeOf, Dump.listOf, Datum.core, Datum.field?,
    Datum.present?, Dump.whole, Datum.toWhole, Dump.fileType, Dump.fileDenotation, Dump.spanOf, Dump.items,
    Datum.fieldItems, Dump.claim_run, StateT.run_bind, Dump.textOr, Dump.textField?, Except.mapError]
  rfl

theorem block_load : Dump.crate "m" blockDoc = .ok blockCrate :=
  (Dump.crate_eq_ok_iff rfl).2 ⟨⟨rfl, rfl, rfl⟩, _, _, rfl, block_units, rfl, rfl⟩

/-! ## Bytes, and no bytes -/

/-- The test whether 300 is one of no bytes. -/
def byteTest : Guard.Term := .compare (.literal (.int 300)) [(.mem, .literal (.bytes []))]

/-- Whether a term is this test. -/
def isByteTest : Guard.Term → Bool
  | .compare (.literal (.int n)) [(.mem, .literal (.bytes b))] => n == 300 && b.isEmpty
  | _ => false

theorem eq_of_isByteTest {term : Guard.Term} (h : isByteTest term = true) : term = byteTest := by
  unfold isByteTest at h
  split at h
  · next n b =>
    obtain ⟨rfl, rfl⟩ : n = 300 ∧ b = [] := by simpa using h
    rfl
  · cases h

theorem byteTest_ofText : Guard.ofText "300 in b''" = .ok (some byteTest) := by
  have h : ((Guard.ofText "300 in b''").toOption.bind id).any isByteTest = true := by decide +kernel
  cases read : Guard.ofText "300 in b''" with
  | error fault => simp [read, Except.toOption] at h
  | ok term =>
    cases term with
    | none => simp [read, Except.toOption] at h
    | some term =>
      rw [read] at h
      rw [eq_of_isByteTest h]

theorem byteTest_evaluate :
    (exprRule "300 in b''" (some byteTest)).evaluate blockUnit.body ⟨blockUnit, blockCrate, .standard⟩ =
      .error (.uncaught .noByte) := rfl

theorem byteTest_unit :
    unitResult (exprRegistry "300 in b''" (some byteTest)) .standard blockCrate blockUnit =
      .error .noByte := by
  have hp : (exprRegistry "300 in b''" (some byteTest)).pairs blockUnit.body =
      [(blockUnit.body, exprRule "300 in b''" (some byteTest))] := by
    simp [Registry.pairs, Expr.preorder_eq, Expr.parts, blockUnit, exprRegistry, exprRule]
  rw [unitResult, (reachable_exprRegistry _ _).offers_eq, hp]
  simp [answer, byteTest_evaluate, halt?, settle]

/-- A rule that a document describes ends the analysis of a crate that loads, as 300 is no byte. -/
theorem byteTest_uncaught :
    Rule.ofEntries "m" (exprEntries "300 in b''") = .ok (exprRule "300 in b''" (some byteTest)) ∧
    Registry.ofRules [exprRule "300 in b''" (some byteTest)] =
      .ok (exprRegistry "300 in b''" (some byteTest)) ∧
    Dump.crate "m" blockDoc = .ok blockCrate ∧
    (exprRule "300 in b''" (some byteTest)).evaluate blockUnit.body ⟨blockUnit, blockCrate, .standard⟩ =
      .error (.uncaught .noByte) ∧
    ∀ (memory : Memory) (jobs : Int),
      CrateAnalysis (exprRegistry "300 in b''" (some byteTest)) .standard blockCrate memory jobs
        (.error .noByte) := by
  refine ⟨ofEntries_exprEntries byteTest_ofText, exprRegistry_ofRules _ _, block_load, byteTest_evaluate,
    fun memory jobs => ?_⟩
  rw [crateAnalysis_iff]
  have units : blockCrate.units = [blockUnit] := rfl
  rw [units, List.map_singleton, byteTest_unit]
  rfl

/-- Whether a term is a name. -/
def isName (name : String) : Guard.Term → Bool
  | .name n => n == name
  | _ => false

theorem eq_of_isName {name : String} {term : Guard.Term} (h : isName name term = true) : term = .name name := by
  unfold isName at h
  split at h
  · rw [eq_of_beq h]
  · cases h

theorem nameTest_read : Guard.read "x" = .ok (.name "x") := by
  have h : (Guard.read "x").toOption.any (isName "x") = true := by decide +kernel
  cases read : Guard.read "x" with
  | error fault => simp [read, Except.toOption] at h
  | ok term =>
    rw [read] at h
    rw [eq_of_isName h]

/-- A test of a name that there is not. -/
theorem nameTest_ofText : Guard.ofText "x" = .ok (some (.name "x")) := by
  have trimmed : Text.trim "x" = "x" := by decide +kernel
  have notBlank : "x" ≠ "" := by decide
  simp only [Guard.ofText, trimmed, if_neg notBlank, nameTest_read]
  rfl

/-- The name has no value, so the guard does not hold. -/
theorem nameTest_answers :
    (exprRegistry "x" (some (.name "x"))).Reachable ∧
    (∀ rule ∈ (exprRegistry "x" (some (.name "x"))).rules, rule.Declared) ∧
    (exprRule "x" (some (.name "x"))).evaluate blockUnit.body ⟨blockUnit, blockCrate, .standard⟩ =
      .ok (.broken "x" (.unknownName "x")) ∧
    ∃ ds, CrateAnalysis (exprRegistry "x" (some (.name "x"))) .standard blockCrate .empty 1 (.ok ds) := by
  have declared : ∀ rule ∈ (exprRegistry "x" (some (.name "x"))).rules, rule.Declared :=
    List.forall_mem_singleton.2 (declared_exprRule nameTest_ofText)
  obtain ⟨answers, analyses⟩ := analysis_answers (reachable_exprRegistry "x" (some (.name "x"))) declared
    .standard blockCrate
  have hm : exprRule "x" (some (.name "x")) ∈ (exprRegistry "x" (some (.name "x"))).rules :=
    List.mem_singleton_self _
  obtain ⟨ds, hds⟩ := (analyses .empty 1).2 fun u _ before p after ho _ ha => by
    have hp : p ∈ (exprRegistry "x" (some (.name "x"))).pairs u.body := by simp [ho]
    have hb := (answers p.2 (Registry.rule_of_pair hp) p.1 _).2.2 ha
    rw [List.mem_singleton.1 (Registry.rule_of_pair hp)] at hb
    cases hb
  have comes : (exprRule "x" (some (.name "x"))).ComesTo blockUnit.body ⟨blockUnit, blockCrate, .standard⟩ "x"
      (.name "x") {} := ⟨[], [], rfl, .nil _⟩
  exact ⟨reachable_exprRegistry _ _, declared, (answers _ hm _ _).1 _ _ _ _ comes rfl nofun, ds, (hds _).2 rfl⟩

end ChainLint
