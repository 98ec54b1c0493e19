import ChainLint.Guard.Eval
import Mathlib.Data.List.Basic
/-!
# The parts of an expression

`Term.subs` lists an expression and the expressions inside it. The name of a
function that guards may call is not among them, as it stands for no value.
What an expression comes to hangs on the names among its parts only
(`eval_congr`).
-/

namespace ChainLint.Guard

mutual

/-- An expression and all expressions inside it. -/
def Term.subs : Term → List Term
  | .literal l => [.literal l]
  | .name id => [.name id]
  | .both terms => .both terms :: Term.subsAll terms
  | .either terms => .either terms :: Term.subsAll terms
  | .unary op operand => .unary op operand :: operand.subs
  | .compare first links => .compare first links :: (first.subs ++ Term.subsLinks links)
  | .choice test body other => .choice test body other :: (test.subs ++ body.subs ++ other.subs)
  | .attribute object field => .attribute object field :: object.subs
  | .call callee args hasKeywords =>
    .call callee args hasKeywords ::
      ((if (builtin? callee).isSome then [] else callee.subs) ++ Term.subsAll args)
  | .item object index => .item object index :: (object.subs ++ index.subs)
  | .list items => .list items :: Term.subsAll items
  | .tuple items => .tuple items :: Term.subsAll items
  | .unsupported kind => [.unsupported kind]

/-- Expressions and all expressions inside them. -/
def Term.subsAll : List Term → List Term
  | [] => []
  | t :: r => t.subs ++ Term.subsAll r

/-- The operands of a chain and all expressions inside them. -/
def Term.subsLinks : List (Comparison × Term) → List Term
  | [] => []
  | (_, t) :: r => t.subs ++ Term.subsLinks r

end

theorem Term.mem_subs_self (t : Term) : t ∈ t.subs := by
  cases t <;> simp [subs]

/-! ## Names -/

/-- Two scopes give the same value to every name among some expressions, or none. -/
def Scope.AgreeOn (s s' : Scope) (l : List Term) : Prop := ∀ id, .name id ∈ l → s.get? id = s'.get? id

section
variable {s s' : Scope}

theorem Scope.agreeOn_cons {t : Term} {l : List Term} (h : s.AgreeOn s' (t :: l)) : s.AgreeOn s' l :=
  fun id hm => h id (List.mem_cons_of_mem _ hm)

theorem Scope.agreeOn_append {l l' : List Term} :
    s.AgreeOn s' (l ++ l') ↔ s.AgreeOn s' l ∧ s.AgreeOn s' l' := by
  constructor
  · intro h
    exact ⟨fun id hm => h id (List.mem_append_left _ hm), fun id hm => h id (List.mem_append_right _ hm)⟩
  · rintro ⟨h, h'⟩ id hm
    rcases List.mem_append.1 hm with hm | hm
    · exact h id hm
    · exact h' id hm

mutual

/-- Scopes that agree on the names in an expression give it the same value, or the same fault. -/
theorem eval_congr (t : Term) (h : s.AgreeOn s' t.subs) : eval s t = eval s' t := by
  match t with
  | .literal l => rw [eval, eval]
  | .name id => rw [eval, eval, h id (Term.mem_subs_self _)]
  | .both terms => rw [eval, eval, evalBoth_congr terms (Scope.agreeOn_cons h)]
  | .either terms => rw [eval, eval, evalEither_congr terms (Scope.agreeOn_cons h)]
  | .unary op operand =>
    have ih := eval_congr operand (Scope.agreeOn_cons h)
    cases op with
    | not => rw [eval, eval, ih]
    | minus => rw [eval, eval, ih]
    | _ => rfl
  | .compare first links =>
    obtain ⟨hf, hl⟩ := Scope.agreeOn_append.1 (Scope.agreeOn_cons h)
    rw [eval, eval, eval_congr first hf]
    simp only [evalChain_congr links hl]
  | .choice test body other =>
    obtain ⟨h, ho⟩ := Scope.agreeOn_append.1 (Scope.agreeOn_cons h)
    obtain ⟨ht, hb⟩ := Scope.agreeOn_append.1 h
    rw [eval, eval, eval_congr test ht, eval_congr body hb, eval_congr other ho]
  | .attribute object name => rw [eval, eval, eval_congr object (Scope.agreeOn_cons h)]
  | .call callee args hasKeywords =>
    obtain ⟨-, ha⟩ := Scope.agreeOn_append.1 (Scope.agreeOn_cons h)
    rw [eval, eval, evalAll_congr args ha]
  | .item object index =>
    obtain ⟨ho, hi⟩ := Scope.agreeOn_append.1 (Scope.agreeOn_cons h)
    rw [eval, eval, eval_congr object ho, eval_congr index hi]
  | .list items => rw [eval, eval, evalAll_congr items (Scope.agreeOn_cons h)]
  | .tuple items => rw [eval, eval, evalAll_congr items (Scope.agreeOn_cons h)]
  | .unsupported kind => rw [eval, eval]

theorem evalAll_congr (ts : List Term) (h : s.AgreeOn s' (Term.subsAll ts)) :
    evalAll s ts = evalAll s' ts := by
  match ts with
  | [] => rfl
  | t :: r =>
    obtain ⟨ht, hr⟩ := Scope.agreeOn_append.1 h
    rw [evalAll, evalAll, eval_congr t ht, evalAll_congr r hr]

theorem evalBoth_congr (ts : List Term) (h : s.AgreeOn s' (Term.subsAll ts)) :
    evalBoth s ts = evalBoth s' ts := by
  match ts with
  | [] => rfl
  | t :: r =>
    obtain ⟨ht, hr⟩ := Scope.agreeOn_append.1 h
    rw [evalBoth, evalBoth, eval_congr t ht, evalBoth_congr r hr]

theorem evalEither_congr (ts : List Term) (h : s.AgreeOn s' (Term.subsAll ts)) :
    evalEither s ts = evalEither s' ts := by
  match ts with
  | [] => rfl
  | t :: r =>
    obtain ⟨ht, hr⟩ := Scope.agreeOn_append.1 h
    rw [evalEither, evalEither, eval_congr t ht, evalEither_congr r hr]

theorem evalChain_congr (links : List (Comparison × Term)) (h : s.AgreeOn s' (Term.subsLinks links))
    (left : Value) : evalChain s left links = evalChain s' left links := by
  match links with
  | [] => rfl
  | (op, t) :: r =>
    obtain ⟨ht, hr⟩ := Scope.agreeOn_append.1 h
    rw [evalChain, evalChain, eval_congr t ht]
    simp only [evalChain_congr r hr]

end

end

end ChainLint.Guard
