import ChainLint.Number.Binary64
/-!
# Guard expressions

A guard may be a small expression. The syntax is larger than what guards may
use: a construct outside the language stands as `unsupported`, by the name of
its kind, and what it is built from is not kept.
-/

namespace ChainLint.Guard

/-- A literal. -/
inductive Literal
  | none
  | bool (b : Bool)
  | int (n : Nat)
  | float (x : Binary64)
  | imaginary (x : Binary64)
  | text (s : String)
  | bytes (b : List UInt8)
  | ellipsis
deriving DecidableEq, Repr

/-- A prefix operator. -/
inductive UnaryOp
  | not
  | minus
  | plus
  | invert
deriving DecidableEq, Repr

/-- A comparison operator. -/
inductive Comparison
  | eq
  | ne
  | lt
  | le
  | gt
  | ge
  | mem
  | notMem
  | is
  | isNot
deriving DecidableEq, Repr

/-- An expression. -/
inductive Term
  | literal (value : Literal)
  | name (id : String)
  | both (terms : List Term)
  | either (terms : List Term)
  | unary (op : UnaryOp) (operand : Term)
  | compare (first : Term) (links : List (Comparison × Term))
  | choice (test body other : Term)
  | attribute (object : Term) (name : String)
  | call (callee : Term) (args : List Term) (hasKeywords : Bool)
  | item (object index : Term)
  | list (items : List Term)
  | tuple (items : List Term)
  | unsupported (kind : String)
deriving Repr, Inhabited

end ChainLint.Guard
