import ChainLint.Guard.Attribute
import ChainLint.Guard.Term
/-!
# Evaluating guard expressions

`and` and `or` give a truth value and stop at the first term that decides. A
chain of comparisons stops at the first one that does not hold, and each
operand is evaluated once. A construct that is not allowed fails before
anything in it is evaluated.
-/

namespace ChainLint.Guard

/-- The values of names. -/
abbrev Scope := List (String × Value)

/-- The value of a name. -/
def Scope.get? (scope : Scope) (name : String) : Option Value :=
  (scope.find? fun e => e.1 = name).map (·.2)

/-- The value of a literal, which is kept nowhere. -/
def Literal.value : Literal → Value
  | .none => .none
  | .bool b => .bool b
  | .int n => .int n .nowhere
  | .float x => .float x .nowhere
  | .imaginary x => .complex Binary64.zero x .nowhere
  | .text s => .text s .nowhere
  | .bytes b => .bytes b .nowhere
  | .ellipsis => .ellipsis

/-- Whether a comparison of two values holds. -/
def Comparison.apply : Comparison → Value → Value → Except Fault Bool
  | .eq, a, b => .ok (a.equal b)
  | .ne, a, b => .ok !(a.equal b)
  | .mem, a, b => Value.contains a b
  | .notMem, a, b => not <$> Value.contains a b
  | .is, a, b => .ok (a.sameObject b)
  | .isNot, a, b => .ok !(a.sameObject b)
  | op, a, b => a.ordered op b

/-- The functions that guards may call. -/
inductive Builtin
  | len
  | any
  | all
deriving DecidableEq, Repr

/-- The function of a name. -/
def Builtin.ofName? : String → Option Builtin
  | "len" => some .len
  | "any" => some .any
  | "all" => some .all
  | _ => none

/-- Calls a function, which takes one argument. -/
def Builtin.apply (f : Builtin) : List Value → Except Fault Value
  | [v] =>
    match v.items? with
    | none => .error .misfit
    | some items =>
      match f with
      | .len => .ok (.int items.length .nowhere)
      | .any => .ok (.bool (items.any Value.isTruthy))
      | .all => .ok (.bool (items.all Value.isTruthy))
  | _ => .error .misfit

/-- The function that a called expression names. -/
def builtin? : Term → Option Builtin
  | .name id => Builtin.ofName? id
  | _ => none

/-- Whether an attribute is private. -/
def isPrivate (name : String) : Bool := name.startsWith "_"

mutual

/-- The value of an expression. -/
def eval (scope : Scope) : Term → Except Fault Value
  | .literal l => .ok l.value
  | .name id =>
    match scope.get? id with
    | some v => .ok v
    | none => .error (.unknownName id)
  | .both terms => Value.bool <$> evalBoth scope terms
  | .either terms => Value.bool <$> evalEither scope terms
  | .unary op operand =>
    match op with
    | .not => do return .bool !(← eval scope operand).isTruthy
    | .minus => do (← eval scope operand).negate
    | _ => .error .unsupportedUnary
  | .compare first links => do
    let left ← eval scope first
    Value.bool <$> evalChain scope left links
  | .choice test body other => do
    if (← eval scope test).isTruthy then eval scope body else eval scope other
  | .attribute object name =>
    if isPrivate name then .error .privateAttribute
    else do (← eval scope object).attribute name
  | .call callee args hasKeywords =>
    match builtin? callee with
    | none => .error .unsafeCall
    | some f => if hasKeywords then .error .keywords else do f.apply (← evalAll scope args)
  | .item object index => do
    let v ← eval scope object
    v.itemAt (← eval scope index)
  | .list items => do return .list (← evalAll scope items) .nowhere
  | .tuple items => do return .tuple (← evalAll scope items) .nowhere
  | .unsupported kind => .error (.unsupportedTerm kind)

/-- The values of expressions, in order. -/
def evalAll (scope : Scope) : List Term → Except Fault (List Value)
  | [] => .ok []
  | t :: r => do
    let v ← eval scope t
    return v :: (← evalAll scope r)

/-- Whether all expressions hold; those after one that does not are not evaluated. -/
def evalBoth (scope : Scope) : List Term → Except Fault Bool
  | [] => .ok true
  | t :: r => do
    if (← eval scope t).isTruthy then evalBoth scope r else pure false

/-- Whether some expression holds; those after one that does are not evaluated. -/
def evalEither (scope : Scope) : List Term → Except Fault Bool
  | [] => .ok false
  | t :: r => do
    if (← eval scope t).isTruthy then pure true else evalEither scope r

/-- Whether a value stands in each comparison to the next operand. -/
def evalChain (scope : Scope) (left : Value) : List (Comparison × Term) → Except Fault Bool
  | [] => .ok true
  | (op, t) :: r => do
    let right ← eval scope t
    if ← op.apply left right then evalChain scope right r else pure false

end

end ChainLint.Guard
