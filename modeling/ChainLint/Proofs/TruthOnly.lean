import ChainLint.Guard.Eval
import Mathlib.Data.List.Basic
/-!
# Where only truth is asked for

The test of a choice and the operand of `not` are asked for their truth only,
and so are the operands of `and` and `or` where these are. `Term.fits` looks for
an `and` or `or` anywhere else. There is none once `not` stands two times before
each (`fits_underNots`), which changes nothing for guards (`eval_underNots`).
-/

namespace ChainLint.Guard

mutual

/-- Whether every `and` and `or` stands where only its truth is asked for. The expression itself may
be asked for its truth only. -/
def Term.fits : Term → Bool → Bool
  | .literal _, _ | .name _, _ | .unsupported _, _ => true
  | .both terms, truthOnly => truthOnly && Term.allFit terms true
  | .either terms, truthOnly => truthOnly && Term.allFit terms true
  | .unary op operand, _ => operand.fits (op == .not)
  | .compare first links, _ => first.fits false && Term.linksFit links
  | .choice test body other, truthOnly => test.fits true && body.fits truthOnly && other.fits truthOnly
  | .attribute object _, _ => object.fits false
  | .call _ args _, _ => Term.allFit args false
  | .item object index, _ => object.fits false && index.fits false
  | .list items, _ => Term.allFit items false
  | .tuple items, _ => Term.allFit items false

/-- Whether expressions fit that are all asked for their truth only, or all for their values. -/
def Term.allFit : List Term → Bool → Bool
  | [], _ => true
  | t :: r, truthOnly => t.fits truthOnly && Term.allFit r truthOnly

/-- Whether the operands of a chain fit. -/
def Term.linksFit : List (Comparison × Term) → Bool
  | [] => true
  | (_, t) :: r => t.fits false && Term.linksFit r

end

/-- Two times `not` before an expression, which gives its truth value. -/
def Term.truthOf (t : Term) : Term := .unary .not (.unary .not t)

mutual

/-- The expression with `not` two times before every `and` and `or`. -/
def Term.underNots : Term → Term
  | .literal l => .literal l
  | .name id => .name id
  | .both terms => Term.truthOf (.both (Term.underNotsAll terms))
  | .either terms => Term.truthOf (.either (Term.underNotsAll terms))
  | .unary op operand => .unary op operand.underNots
  | .compare first links => .compare first.underNots (Term.underNotsLinks links)
  | .choice test body other => .choice test.underNots body.underNots other.underNots
  | .attribute object field => .attribute object.underNots field
  | .call callee args hasKeywords => .call callee (Term.underNotsAll args) hasKeywords
  | .item object index => .item object.underNots index.underNots
  | .list items => .list (Term.underNotsAll items)
  | .tuple items => .tuple (Term.underNotsAll items)
  | .unsupported kind => .unsupported kind

/-- The expressions, each with `not` two times before every `and` and `or`. -/
def Term.underNotsAll : List Term → List Term
  | [] => []
  | t :: r => t.underNots :: Term.underNotsAll r

/-- The chain, its operands with `not` two times before every `and` and `or`. -/
def Term.underNotsLinks : List (Comparison × Term) → List (Comparison × Term)
  | [] => []
  | (op, t) :: r => (op, t.underNots) :: Term.underNotsLinks r

end

mutual

theorem fits_underNots (t : Term) (truthOnly : Bool) : t.underNots.fits truthOnly = true := by
  match t with
  | .literal l => rfl
  | .name id => rfl
  | .both terms => exact allFit_underNots terms true
  | .either terms => exact allFit_underNots terms true
  | .unary op operand => exact fits_underNots operand _
  | .compare first links =>
    rw [Term.underNots, Term.fits, fits_underNots first, linksFit_underNots links]
    rfl
  | .choice test body other =>
    rw [Term.underNots, Term.fits, fits_underNots test, fits_underNots body, fits_underNots other]
    rfl
  | .attribute object field => exact fits_underNots object false
  | .call callee args hasKeywords => exact allFit_underNots args false
  | .item object index =>
    rw [Term.underNots, Term.fits, fits_underNots object, fits_underNots index]
    rfl
  | .list items => exact allFit_underNots items false
  | .tuple items => exact allFit_underNots items false
  | .unsupported kind => rfl

theorem allFit_underNots (ts : List Term) (truthOnly : Bool) :
    Term.allFit (Term.underNotsAll ts) truthOnly = true := by
  match ts with
  | [] => rfl
  | t :: r =>
    rw [Term.underNotsAll, Term.allFit, fits_underNots t, allFit_underNots r]
    rfl

theorem linksFit_underNots (links : List (Comparison × Term)) :
    Term.linksFit (Term.underNotsLinks links) = true := by
  match links with
  | [] => rfl
  | (_, t) :: r =>
    rw [Term.underNotsLinks, Term.linksFit, fits_underNots t, linksFit_underNots r]
    rfl

end

section
variable {scope : Scope}

/-- A truth value under two times `not` is itself. -/
theorem eval_truthOf {t : Term} {x : Except Fault Bool} (h : eval scope t = Value.bool <$> x) :
    eval scope t.truthOf = Value.bool <$> x := by
  rw [Term.truthOf, eval, eval, h]
  cases x with
  | error fault => rfl
  | ok b => cases b <;> rfl

mutual

/-- Two times `not` before every `and` and `or` changes nothing for guards. -/
theorem eval_underNots (t : Term) : eval scope t.underNots = eval scope t := by
  match t with
  | .literal l => rfl
  | .name id => rfl
  | .both terms =>
    rw [Term.underNots, eval, ← evalBoth_underNots terms]
    exact eval_truthOf (by rw [eval])
  | .either terms =>
    rw [Term.underNots, eval, ← evalEither_underNots terms]
    exact eval_truthOf (by rw [eval])
  | .unary op operand =>
    have ih := eval_underNots operand
    rw [Term.underNots]
    cases op with
    | not => rw [eval, eval, ih]
    | minus => rw [eval, eval, ih]
    | _ => rfl
  | .compare first links =>
    rw [Term.underNots, eval, eval, eval_underNots first]
    simp only [evalChain_underNots links]
  | .choice test body other =>
    rw [Term.underNots, eval, eval, eval_underNots test, eval_underNots body, eval_underNots other]
  | .attribute object field => rw [Term.underNots, eval, eval, eval_underNots object]
  | .call callee args hasKeywords => rw [Term.underNots, eval, eval, evalAll_underNots args]
  | .item object index => rw [Term.underNots, eval, eval, eval_underNots object, eval_underNots index]
  | .list items => rw [Term.underNots, eval, eval, evalAll_underNots items]
  | .tuple items => rw [Term.underNots, eval, eval, evalAll_underNots items]
  | .unsupported kind => rfl

theorem evalAll_underNots (ts : List Term) : evalAll scope (Term.underNotsAll ts) = evalAll scope ts := by
  match ts with
  | [] => rfl
  | t :: r => rw [Term.underNotsAll, evalAll, evalAll, eval_underNots t, evalAll_underNots r]

theorem evalBoth_underNots (ts : List Term) : evalBoth scope (Term.underNotsAll ts) = evalBoth scope ts := by
  match ts with
  | [] => rfl
  | t :: r => rw [Term.underNotsAll, evalBoth, evalBoth, eval_underNots t, evalBoth_underNots r]

theorem evalEither_underNots (ts : List Term) :
    evalEither scope (Term.underNotsAll ts) = evalEither scope ts := by
  match ts with
  | [] => rfl
  | t :: r => rw [Term.underNotsAll, evalEither, evalEither, eval_underNots t, evalEither_underNots r]

theorem evalChain_underNots (links : List (Comparison × Term)) (left : Value) :
    evalChain scope left (Term.underNotsLinks links) = evalChain scope left links := by
  match links with
  | [] => rfl
  | (op, t) :: r =>
    rw [Term.underNotsLinks, evalChain, evalChain, eval_underNots t]
    simp only [evalChain_underNots r]

end

end

end ChainLint.Guard
