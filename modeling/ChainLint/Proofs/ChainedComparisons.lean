import ChainLint.Guard.Eval
/-!
# Chains of comparisons

A chain comes to what the conjunction of its links comes to, be it a value or a
fault (`chain_is_conjunction`), although an operand between two links stands
twice in the conjunction and only once in the chain. What follows a link that
does not hold, or that fails, does not count (`evalChain_append`).
-/

namespace ChainLint.Guard

/-- The links of a chain as comparisons of their own, each with both its operands. -/
def comparisons (first : Term) : List (Comparison × Term) → List Term
  | [] => []
  | (op, t) :: rest => .compare first [(op, t)] :: comparisons t rest

section
variable {scope : Scope} {t : Term} {v : Value}

theorem eval_compare (h : eval scope t = .ok v) (links : List (Comparison × Term)) :
    eval scope (.compare t links) = Value.bool <$> evalChain scope v links := by
  rw [eval, h]
  rfl

theorem eval_compare_error {fault : Fault} (h : eval scope t = .error fault) (links : List (Comparison × Term)) :
    eval scope (.compare t links) = .error fault := by
  rw [eval, h]
  rfl

/-- The value of the operand on the left is handed on in a chain and found again in the conjunction. -/
theorem evalBoth_comparisons (h : eval scope t = .ok v) (links : List (Comparison × Term)) :
    evalBoth scope (comparisons t links) = evalChain scope v links := by
  induction links generalizing t v with
  | nil => rfl
  | cons link rest ih =>
    obtain ⟨op, u⟩ := link
    rw [comparisons, evalBoth, eval_compare h, evalChain, evalChain]
    cases hu : eval scope u with
    | error fault => rfl
    | ok right =>
      cases ho : op.apply v right with
      | error fault => simp [ho, bind, Except.bind, Functor.map, Except.map]
      | ok holds =>
        cases holds with
        | false => simp [ho, bind, Except.bind, Functor.map, Except.map, pure, Except.pure, Value.isTruthy]
        | true =>
          simp only [ho, bind, Except.bind, Functor.map, Except.map, evalChain, Value.isTruthy, if_true]
          exact ih hu

/-- A chain that does not hold as far as it goes comes to the same however it goes on. -/
theorem evalChain_append {links : List (Comparison × Term)} (h : evalChain scope v links ≠ .ok true)
    (more : List (Comparison × Term)) : evalChain scope v (links ++ more) = evalChain scope v links := by
  induction links generalizing v with
  | nil => exact absurd rfl h
  | cons link rest ih =>
    obtain ⟨op, u⟩ := link
    rw [List.cons_append]
    rw [evalChain] at h ⊢
    rw [evalChain]
    cases hu : eval scope u with
    | error fault => rfl
    | ok right =>
      rw [hu] at h
      cases ho : op.apply v right with
      | error fault => simp [ho, bind, Except.bind]
      | ok holds =>
        cases holds with
        | false => simp [ho, bind, Except.bind]
        | true =>
          simp only [ho, bind, Except.bind, if_true] at h ⊢
          exact ih h

end

/-- A chain of comparisons and the conjunction of its links come to the same value or fail in the same way,
whatever the operators and operands. A chain that comes to false or fails as far as some operand comes to
the same with more links, so the operands after it are not evaluated. -/
theorem chain_is_conjunction (scope : Scope) (first : Term) :
    (∀ link links, eval scope (.compare first (link :: links)) = eval scope (.both (comparisons first (link :: links)))) ∧
    ∀ links more, eval scope (.compare first links) ≠ .ok (.bool true) →
      eval scope (.compare first (links ++ more)) = eval scope (.compare first links) := by
  cases h : eval scope first with
  | error fault =>
    refine ⟨fun link links => ?_, fun links more _ => ?_⟩
    · rw [eval_compare_error h, comparisons.eq_def]
      simp only [eval, evalBoth, h]
      rfl
    · rw [eval_compare_error h, eval_compare_error h]
  | ok v =>
    refine ⟨fun link links => ?_, fun links more stops => ?_⟩
    · rw [eval_compare h, eval, evalBoth_comparisons h]
    · rw [eval_compare h] at stops ⊢
      have chain : evalChain scope v links ≠ .ok true := by
        intro holds
        exact stops (by rw [holds]; rfl)
      rw [eval_compare h, evalChain_append chain]

/-! ## A chain that is cut short -/

/-- A whole number as it is written. -/
def numeral (n : Nat) : Term := .literal (.int n)

/-- `2 > 1 > 1 < x`: the second link does not hold, and `x` has no value. -/
theorem unknown_after_false :
    eval [] (.compare (numeral 2) [(.gt, numeral 1), (.gt, numeral 1), (.lt, .name "x")]) =
      eval [] (.both [.compare (numeral 2) [(.gt, numeral 1)], .compare (numeral 1) [(.gt, numeral 1)],
        .compare (numeral 1) [(.lt, .name "x")]]) ∧
    eval [] (.compare (numeral 2) [(.gt, numeral 1), (.gt, numeral 1)]) = .ok (.bool false) ∧
    eval [] (.compare (numeral 2) [(.gt, numeral 1), (.gt, numeral 1), (.lt, .name "x")]) = .ok (.bool false) ∧
    eval [] (.compare (numeral 1) [(.lt, .name "x")]) = .error (.unknownName "x") := by
  obtain ⟨same, stops⟩ := chain_is_conjunction [] (numeral 2)
  have short : eval [] (.compare (numeral 2) [(.gt, numeral 1), (.gt, numeral 1)]) = .ok (.bool false) := rfl
  refine ⟨same _ _, short, ?_, rfl⟩
  rw [← short]
  exact stops [(.gt, numeral 1), (.gt, numeral 1)] [(.lt, .name "x")] (by rw [short]; nofun)

end ChainLint.Guard
