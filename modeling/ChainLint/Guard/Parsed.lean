import ChainLint.Guard.FormattedText
/-!
# Pieces of the grammar

What the readers of guard expressions hand on, and the readers of single
operators. An expression is kept with what the constructs around it may ask
about it.
-/

namespace ChainLint.Guard

/-- An expression as it was read. -/
structure Parsed where
  term : Term
  /-- Whether a loop variable could stand in its place. -/
  isTarget : Bool := false
  /-- Whether it is an item spread by a star. -/
  isSpread : Bool := false

/-- A construct outside the language of guards. -/
def Parsed.other (kind : String) : Parsed := { term := .unsupported kind }

/-- An item spread by a star. -/
def Parsed.spread (p : Parsed) : Parsed :=
  { term := .unsupported "Starred", isTarget := p.isTarget, isSpread := true }

/-- A literal. -/
def Parsed.literal (l : Literal) : Parsed := { term := .literal l }

/-- The terms of expressions. -/
def terms (ps : List Parsed) : List Term := ps.map (·.term)

/-- A list or tuple of items. -/
def Parsed.items (make : List Term → Term) (ps : List Parsed) : Parsed :=
  { term := make (terms ps), isTarget := ps.all (·.isTarget) }

/-- What follows a token that has to stand here. -/
def expect (t : Token) : List Token → Option (List Token)
  | [] => none
  | t' :: r => if t' == t then some r else none

/-- What follows an operator that has to stand here. -/
def expectOp (s : String) (ts : List Token) : Option (List Token) := expect (.op s) ts

/-- The comparison operator at the head of some tokens. -/
def comparison? : List Token → Option (Comparison × List Token)
  | .op "==" :: r => some (.eq, r)
  | .op "!=" :: r => some (.ne, r)
  | .op "<" :: r => some (.lt, r)
  | .op "<=" :: r => some (.le, r)
  | .op ">" :: r => some (.gt, r)
  | .op ">=" :: r => some (.ge, r)
  | .keyword "in" :: r => some (.mem, r)
  | .keyword "not" :: .keyword "in" :: r => some (.notMem, r)
  | .keyword "is" :: .keyword "not" :: r => some (.isNot, r)
  | .keyword "is" :: r => some (.is, r)
  | _ => none

/-- The operators between two operands of arithmetic. -/
def arithmetic : List String :=
  ["|", "^", "&", "<<", ">>", "+", "-", "*", "/", "//", "%", "@"]

/-- The operator of arithmetic at the head of some tokens has been passed. -/
def arithmetic? : List Token → Option (List Token)
  | .op s :: r => if arithmetic.contains s then some r else none
  | _ => none

/-- What follows the `for` that begins a loop. -/
def loop? : List Token → Option (List Token)
  | .keyword "async" :: .keyword "for" :: r => some r
  | .keyword "for" :: r => some r
  | _ => none

/-- What follows the name and the sign that give a value a name. -/
def naming? : List Token → Option (List Token)
  | .name _ :: .op ":=" :: r => some r
  | _ => none

/-- Whether a token is a text of any kind. -/
def Token.isText : Token → Bool
  | .text _ | .bytes _ | .formatted .. => true
  | _ => false

/-- The bytes that pieces of bytes make up. -/
def joinBytes : List Token → Option (List UInt8)
  | [] => some []
  | .bytes b :: r => (joinBytes r).map (b ++ ·)
  | _ => none

/-- The text that plain pieces make up. -/
def joinTexts : List Token → Option String
  | [] => some ""
  | .text s :: r => (joinTexts r).map (s ++ ·)
  | _ => none

end ChainLint.Guard
