import ChainLint.Proofs.GuardFaults
import ChainLint.Proofs.Subexpressions
/-!
# What expressions may not do

`forbidden_inert`: with a name that there is not in place of every forbidden
part, an expression has the same value, or fails in the same way. So nothing in
a forbidden part is evaluated. Forbidden parts are not looked for in advance:
an expression is refused when its evaluation comes to one (`refused`), and
nothing else is refused (`Permits`).
-/

namespace ChainLint.Guard

/-! ## Forbidden expressions -/

/-- Whether no guard may evaluate such an expression, whatever its parts are. -/
def Term.isForbidden : Term → Bool
  | .unary op _ => op != .not && op != .minus
  | .attribute _ field => isPrivate field
  | .call callee _ hasKeywords => (builtin? callee).isNone || hasKeywords
  | .unsupported _ => true
  | _ => false

/-- Whether an expression is refused, rather than unfit for its values. -/
def Fault.isRefusal : Fault → Bool
  | .privateAttribute | .unsafeCall | .keywords | .unsupportedTerm _ | .unsupportedUnary => true
  | _ => false

/-- Refusals have words of their own, and no class. -/
theorem Fault.className?_of_isRefusal {fault : Fault} (h : fault.isRefusal = true) : fault.className? = none := by
  cases fault <;> first | rfl | cases h

mutual

/-- The expression with a name in place of every forbidden part that is in no other one. -/
def Term.redact (name : String) : Term → Term
  | .literal l => .literal l
  | .name id => .name id
  | .both terms => .both (Term.redactAll name terms)
  | .either terms => .either (Term.redactAll name terms)
  | .unary op operand => if op != .not && op != .minus then .name name else .unary op (operand.redact name)
  | .compare first links => .compare (first.redact name) (Term.redactLinks name links)
  | .choice test body other => .choice (test.redact name) (body.redact name) (other.redact name)
  | .attribute object field => if isPrivate field then .name name else .attribute (object.redact name) field
  | .call callee args hasKeywords =>
    if (builtin? callee).isNone || hasKeywords then .name name
    else .call callee (Term.redactAll name args) hasKeywords
  | .item object index => .item (object.redact name) (index.redact name)
  | .list items => .list (Term.redactAll name items)
  | .tuple items => .tuple (Term.redactAll name items)
  | .unsupported _ => .name name

/-- The expressions, each with a name in place of its forbidden parts. -/
def Term.redactAll (name : String) : List Term → List Term
  | [] => []
  | t :: r => t.redact name :: Term.redactAll name r

/-- The chain, its operands with a name in place of their forbidden parts. -/
def Term.redactLinks (name : String) : List (Comparison × Term) → List (Comparison × Term)
  | [] => []
  | (op, t) :: r => (op, t.redact name) :: Term.redactLinks name r

end

/-! ## What is refused -/

/-- A forbidden expression is refused for what it is, whatever names stand for and its parts are. -/
theorem refused {s : Term} (h : s.isForbidden = true) :
    ∃ fault, fault.isRefusal = true ∧ ∀ scope, eval scope s = .error fault := by
  match s with
  | .unary op operand =>
    refine ⟨.unsupportedUnary, rfl, fun scope => ?_⟩
    cases op with
    | not => cases h
    | minus => cases h
    | _ => rfl
  | .attribute object field =>
    refine ⟨.privateAttribute, rfl, fun scope => ?_⟩
    rw [eval]
    exact if_pos h
  | .call callee args hasKeywords =>
    cases hb : builtin? callee with
    | none => exact ⟨.unsafeCall, rfl, fun scope => by rw [eval, hb]⟩
    | some f =>
      rw [Term.isForbidden, hb] at h
      refine ⟨.keywords, rfl, fun scope => ?_⟩
      rw [eval, hb]
      exact if_pos h
  | .unsupported kind => exact ⟨.unsupportedTerm kind, rfl, fun scope => rfl⟩

/-- A computation that refuses nothing. -/
def Permits {α : Type} (x : Except Fault α) : Prop := ∀ fault, x = .error fault → fault.isRefusal = false

/-- A computation that fails with faults of a class only, as operations on values they do not fit do. -/
def Classed {α : Type} (x : Except Fault α) : Prop := ∀ fault, x = .error fault → fault.className? ≠ none

section
variable {α : Type}

theorem Classed.permits {x : Except Fault α} (h : Classed x) : Permits x := by
  intro fault hx
  rw [← Bool.not_eq_true]
  intro refusal
  exact h fault hx (Fault.className?_of_isRefusal refusal)

theorem classed_ok (a : α) : Classed (.ok a) := nofun

theorem classed_error {fault : Fault} (h : fault.className? ≠ none) : Classed (.error fault : Except Fault α) := by
  intro fault' h'
  cases h'
  exact h

theorem classed_misfit : Classed (.error .misfit : Except Fault α) := classed_error nofun

end

theorem permits_attribute (v : Value) (field : String) : Permits (v.attribute field) := by
  unfold Value.attribute
  split
  · nofun
  · split
    · intro fault h
      cases h
      rfl
    · intro fault h
      cases h
      rfl

theorem classed_negate (v : Value) : Classed v.negate := by
  cases v <;> first | exact classed_ok _ | exact classed_misfit

theorem classed_itemAt (v index : Value) : Classed (v.itemAt index) := by
  cases v with
  | dict entries place =>
    simp only [Value.itemAt]
    split
    · split
      · exact classed_ok _
      · exact classed_error (Option.some_ne_none _)
    · exact classed_misfit
  | list _ _ | tuple _ _ | text _ _ | bytes _ _ =>
    -- these are all indexed alike
    simp only [Value.itemAt]
    split
    · split
      · exact classed_ok _
      · exact classed_error (Option.some_ne_none _)
    · exact classed_misfit
  | _ => exact classed_misfit

theorem classed_contains (x v : Value) : Classed (Value.contains x v) := by
  have byte : ∀ (p : Prop) [Decidable p] (b : Bool),
      Classed (if p then .ok b else .error .noByte : Except Fault Bool) := by
    intro p _ b
    split
    · exact classed_ok _
    · exact classed_error nofun
  cases v with
  | list items place => exact classed_ok _
  | tuple items place => exact classed_ok _
  | dict entries place =>
    simp only [Value.contains]
    split
    · exact classed_ok _
    · exact classed_misfit
  | text s place => cases x <;> first | exact classed_ok _ | exact classed_misfit
  | bytes b place => cases x <;> first | exact classed_ok _ | exact byte _ _ | exact classed_misfit
  | _ => exact classed_misfit

theorem classed_ordered (op : Comparison) (a b : Value) : Classed (Value.ordered op a b) := by
  intro fault h
  rw [ordered_error op a b h]
  nofun

theorem classed_apply (op : Comparison) (a b : Value) : Classed (op.apply a b) := by
  cases op with
  | mem => exact classed_contains a b
  | notMem =>
    intro fault h
    exact classed_contains a b fault (map_eq_error_iff.1 h)
  | lt => exact classed_ordered .lt a b
  | le => exact classed_ordered .le a b
  | gt => exact classed_ordered .gt a b
  | ge => exact classed_ordered .ge a b
  | _ => exact classed_ok _

theorem classed_builtin (f : Builtin) (args : List Value) : Classed (f.apply args) := by
  unfold Builtin.apply
  split
  · split
    · exact classed_misfit
    · split <;> exact classed_ok _
  · exact classed_misfit

/-! ## Evaluating without the forbidden parts -/

/-- What a computation comes to if a name that there is not stands for all that is refused. -/
def unrefused (name : String) {α : Type} (x : Except Fault α) : Except Fault α :=
  x.mapError fun fault => if fault.isRefusal then .unknownName name else fault

section
variable {name : String} {α β : Type}

theorem unrefused_bind (x : Except Fault α) (g : α → Except Fault β) :
    unrefused name (x >>= g) = unrefused name x >>= fun a => unrefused name (g a) := by
  cases x <;> rfl

theorem unrefused_map (f : α → β) (x : Except Fault α) : unrefused name (f <$> x) = f <$> unrefused name x := by
  cases x <;> rfl

theorem Permits.unrefused_eq {x : Except Fault α} (h : Permits x) : unrefused name x = x := by
  cases x with
  | ok a => rfl
  | error fault => simp [unrefused, Except.mapError, h fault rfl]

theorem unrefused_ite (p : Prop) [Decidable p] (x y : Except Fault α) :
    unrefused name (if p then x else y) = if p then unrefused name x else unrefused name y := by
  split <;> rfl

/-- A refusal comes to the same as a name that there is not. -/
theorem unrefused_refusal {scope : Scope} (fresh : scope.get? name = none) {fault : Fault}
    (h : fault.isRefusal = true) : eval scope (.name name) = unrefused name (.error fault) := by
  simp [eval, fresh, unrefused, Except.mapError, h]

end

section
variable {scope : Scope} {name : String}

theorem eval_forbidden (fresh : scope.get? name = none) {t : Term} (h : t.isForbidden = true) :
    eval scope (.name name) = unrefused name (eval scope t) := by
  obtain ⟨fault, refusal, he⟩ := refused h
  rw [he scope]
  exact unrefused_refusal fresh refusal

mutual

/-- Evaluating an expression without its forbidden parts differs in the refusals only. -/
theorem eval_redact (fresh : scope.get? name = none) (t : Term) :
    eval scope (t.redact name) = unrefused name (eval scope t) := by
  -- a part that is kept differs in its own refusals only, and the step after it refuses nothing
  match t with
  | .literal l => rfl
  | .name id =>
    rw [Term.redact, eval]
    split <;> rfl
  | .both terms => rw [Term.redact, eval, eval, evalBoth_redact fresh terms, unrefused_map]
  | .either terms => rw [Term.redact, eval, eval, evalEither_redact fresh terms, unrefused_map]
  | .unary op operand =>
    rw [Term.redact]
    split
    · next h => exact eval_forbidden fresh h
    · next h =>
      have ih := eval_redact fresh operand
      cases op with
      | not =>
        rw [eval, eval, ih, unrefused_bind]
        rfl
      | minus =>
        rw [eval, eval, ih, unrefused_bind]
        simp only [(classed_negate _).permits.unrefused_eq]
      | _ => exact absurd rfl h
  | .compare first links =>
    rw [Term.redact, eval, eval, eval_redact fresh first, unrefused_bind]
    simp only [evalChain_redact fresh links, unrefused_map]
  | .choice test body other =>
    rw [Term.redact, eval, eval, eval_redact fresh test, eval_redact fresh body, eval_redact fresh other,
      unrefused_bind]
    simp only [unrefused_ite]
  | .attribute object field =>
    rw [Term.redact]
    split
    · next h => exact eval_forbidden fresh h
    · next h =>
      rw [eval, eval, if_neg h, if_neg h, eval_redact fresh object, unrefused_bind]
      simp only [(permits_attribute _ _).unrefused_eq]
  | .call callee args hasKeywords =>
    rw [Term.redact]
    split
    · next h => exact eval_forbidden fresh h
    · next h =>
      cases hb : builtin? callee with
      | none => simp [hb] at h
      | some f =>
        cases hasKeywords with
        | true => simp at h
        | false =>
          rw [eval, eval, hb]
          simp only [Bool.false_eq_true, if_false, evalAll_redact fresh args, unrefused_bind,
            (classed_builtin _ _).permits.unrefused_eq]
  | .item object index =>
    rw [Term.redact, eval, eval, eval_redact fresh object, eval_redact fresh index, unrefused_bind]
    simp only [unrefused_bind, (classed_itemAt _ _).permits.unrefused_eq]
  | .list items =>
    rw [Term.redact, eval, eval, evalAll_redact fresh items, unrefused_bind]
    rfl
  | .tuple items =>
    rw [Term.redact, eval, eval, evalAll_redact fresh items, unrefused_bind]
    rfl
  | .unsupported kind =>
    rw [Term.redact]
    exact eval_forbidden fresh rfl

theorem evalAll_redact (fresh : scope.get? name = none) (ts : List Term) :
    evalAll scope (Term.redactAll name ts) = unrefused name (evalAll scope ts) := by
  match ts with
  | [] => rfl
  | t :: r =>
    rw [Term.redactAll, evalAll, evalAll, eval_redact fresh t, evalAll_redact fresh r, unrefused_bind]
    simp only [unrefused_bind]
    rfl

theorem evalBoth_redact (fresh : scope.get? name = none) (ts : List Term) :
    evalBoth scope (Term.redactAll name ts) = unrefused name (evalBoth scope ts) := by
  match ts with
  | [] => rfl
  | t :: r =>
    rw [Term.redactAll, evalBoth, evalBoth, eval_redact fresh t, evalBoth_redact fresh r, unrefused_bind]
    simp only [unrefused_ite]
    rfl

theorem evalEither_redact (fresh : scope.get? name = none) (ts : List Term) :
    evalEither scope (Term.redactAll name ts) = unrefused name (evalEither scope ts) := by
  match ts with
  | [] => rfl
  | t :: r =>
    rw [Term.redactAll, evalEither, evalEither, eval_redact fresh t, evalEither_redact fresh r, unrefused_bind]
    simp only [unrefused_ite]
    rfl

theorem evalChain_redact (fresh : scope.get? name = none) (links : List (Comparison × Term)) (left : Value) :
    evalChain scope left (Term.redactLinks name links) = unrefused name (evalChain scope left links) := by
  match links with
  | [] => rfl
  | (op, t) :: r =>
    rw [Term.redactLinks, evalChain, evalChain, eval_redact fresh t, unrefused_bind]
    simp only [evalChain_redact fresh r, unrefused_bind, unrefused_ite, (classed_apply _ _ _).permits.unrefused_eq]
    rfl

end

end

/-! ## Nothing forbidden is left -/

mutual

theorem redact_permitted (name : String) (t : Term) : ∀ s ∈ (t.redact name).subs, s.isForbidden = false := by
  have given : ∀ s ∈ (Term.name name).subs, s.isForbidden = false := by
    simp [Term.subs, Term.isForbidden]
  match t with
  | .literal l => simp [Term.redact, Term.subs, Term.isForbidden]
  | .name id => simp [Term.redact, Term.subs, Term.isForbidden]
  | .both terms =>
    rw [Term.redact, Term.subs]
    exact List.forall_mem_cons.2 ⟨rfl, redactAll_permitted name terms⟩
  | .either terms =>
    rw [Term.redact, Term.subs]
    exact List.forall_mem_cons.2 ⟨rfl, redactAll_permitted name terms⟩
  | .unary op operand =>
    rw [Term.redact]
    split
    · exact given
    · next h =>
      rw [Term.subs]
      exact List.forall_mem_cons.2 ⟨Bool.eq_false_iff.2 h, redact_permitted name operand⟩
  | .compare first links =>
    rw [Term.redact, Term.subs]
    exact List.forall_mem_cons.2 ⟨rfl, List.forall_mem_append.2
      ⟨redact_permitted name first, redactLinks_permitted name links⟩⟩
  | .choice test body other =>
    rw [Term.redact, Term.subs]
    exact List.forall_mem_cons.2 ⟨rfl, List.forall_mem_append.2 ⟨List.forall_mem_append.2
      ⟨redact_permitted name test, redact_permitted name body⟩, redact_permitted name other⟩⟩
  | .attribute object field =>
    rw [Term.redact]
    split
    · exact given
    · next h =>
      rw [Term.subs]
      exact List.forall_mem_cons.2 ⟨Bool.eq_false_iff.2 h, redact_permitted name object⟩
  | .call callee args hasKeywords =>
    rw [Term.redact]
    split
    · exact given
    · next h =>
      have allowed : (builtin? callee).isSome = true := by
        cases hb : builtin? callee with
        | none => simp [hb] at h
        | some f => rfl
      -- the function that is called is no part
      rw [Term.subs, if_pos allowed, List.nil_append]
      exact List.forall_mem_cons.2 ⟨Bool.eq_false_iff.2 h, redactAll_permitted name args⟩
  | .item object index =>
    rw [Term.redact, Term.subs]
    exact List.forall_mem_cons.2 ⟨rfl, List.forall_mem_append.2
      ⟨redact_permitted name object, redact_permitted name index⟩⟩
  | .list items =>
    rw [Term.redact, Term.subs]
    exact List.forall_mem_cons.2 ⟨rfl, redactAll_permitted name items⟩
  | .tuple items =>
    rw [Term.redact, Term.subs]
    exact List.forall_mem_cons.2 ⟨rfl, redactAll_permitted name items⟩
  | .unsupported kind =>
    rw [Term.redact]
    exact given

theorem redactAll_permitted (name : String) (ts : List Term) :
    ∀ s ∈ Term.subsAll (Term.redactAll name ts), s.isForbidden = false := by
  match ts with
  | [] => nofun
  | t :: r => exact List.forall_mem_append.2 ⟨redact_permitted name t, redactAll_permitted name r⟩

theorem redactLinks_permitted (name : String) (links : List (Comparison × Term)) :
    ∀ s ∈ Term.subsLinks (Term.redactLinks name links), s.isForbidden = false := by
  match links with
  | [] => nofun
  | (_, t) :: r => exact List.forall_mem_append.2 ⟨redact_permitted name t, redactLinks_permitted name r⟩

end

/-- With a name that there is not in place of its forbidden parts, an expression comes to the same
value, or fails in the same way. A forbidden expression comes to no value, whatever names stand for. -/
theorem forbidden_inert (t : Term) {scope : Scope} {name : String} (fresh : scope.get? name = none) :
    (∀ s ∈ (t.redact name).subs, s.isForbidden = false) ∧
    (∀ v, eval scope (t.redact name) = .ok v ↔ eval scope t = .ok v) ∧
    (eval scope (t.redact name)).mapError Fault.className? = (eval scope t).mapError Fault.className? ∧
    (∀ fault, eval scope t = .error fault →
      eval scope (t.redact name) = .error (if fault.isRefusal then .unknownName name else fault)) ∧
    ∀ s : Term, s.isForbidden = true →
      ∃ fault, fault.isRefusal = true ∧ fault.className? = none ∧ ∀ scope, eval scope s = .error fault := by
  have same := eval_redact fresh t
  refine ⟨redact_permitted name t, fun v => ?_, ?_, fun fault h => ?_, fun s hs => ?_⟩
  · rw [same]
    cases eval scope t <;> simp [unrefused, Except.mapError]
  · rw [same]
    cases eval scope t with
    | ok v => rfl
    | error fault =>
      by_cases h : fault.isRefusal = true
      · simp only [unrefused, Except.mapError, if_pos h, Fault.className?_of_isRefusal h]
        rfl
      · simp only [unrefused, Except.mapError, if_neg h]
  · rw [same, h]
    rfl
  · obtain ⟨fault, refusal, he⟩ := refused hs
    exact ⟨fault, refusal, Fault.className?_of_isRefusal refusal, he⟩

/-! ## A call that is passed by -/

/-- An expression whose second operand is a call that is not allowed. -/
def passedBy : Term := .either [.name "x", .call (.name "exit") [.name "x"] false]

/-- The first operand holds, so the call does not matter; by itself it is refused. -/
theorem passedBy_inert :
    Scope.get? [("x", .bool true)] "gone" = none ∧
    passedBy.redact "gone" = .either [.name "x", .name "gone"] ∧
    eval [("x", .bool true)] (passedBy.redact "gone") = .ok (.bool true) ∧
    (∃ fault, fault.isRefusal = true ∧ eval [] (.call (.name "exit") [.name "x"] false) = .error fault) := by
  have fresh : Scope.get? [("x", .bool true)] "gone" = none := rfl
  obtain ⟨-, same, -, -, refusal⟩ := forbidden_inert passedBy fresh
  obtain ⟨fault, h, -, he⟩ := refusal (.call (.name "exit") [.name "x"] false) rfl
  exact ⟨fresh, rfl, (same _).2 rfl, fault, h, he []⟩

end ChainLint.Guard
