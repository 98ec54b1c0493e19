import ChainLint.Guard.Token
/-!
# Texts with fields

A text marked with `f` holds fields in braces. Two equal braces stand for one
brace. A field is an expression, perhaps with an equals sign, a conversion and
a format, which may hold fields itself. Here the text is cut up; what the
fields hold is read by the grammar.
-/

namespace ChainLint.Guard

/-- Whether a character is a brace. -/
def isBrace (c : Char) : Bool := c = '\x7b' || c = '\x7d'

/-- Plain characters between fields. -/
structure Stretch where
  plain : List Char
  /-- Whether a double brace ends it, which has been passed. -/
  isDoubled : Bool
  rest : List Char

/-- The stretch with a character in front. -/
def Stretch.cons (c : Char) (s : Stretch) : Stretch := { s with plain := c :: s.plain }

/-- The plain characters up to a brace that counts. A double brace stands for one outside formats;
there a closing brace alone is a mistake. -/
def stretch? (raw nested : Bool) : List Char → Option Stretch
  | [] => some ⟨[], false, []⟩
  | c :: t =>
    if c = '\\' ∧ raw = false then
      match t with
      | [] => some ⟨[c], false, []⟩
      | d :: r =>
        if isBrace d then (stretch? raw nested (d :: r)).map (·.cons c)
        else (stretch? raw nested r).map fun s => (s.cons d).cons c
    else if isBrace c then
      if nested then some ⟨[], false, c :: t⟩
      else if t.head? = some c then some ⟨[c], true, t.drop 1⟩
      else if c = '\x7d' then none
      else some ⟨[], false, c :: t⟩
    else (stretch? raw nested t).map (·.cons c)

/-- Whether the escapes in plain characters are complete. -/
def Stretch.isSound (raw : Bool) (s : Stretch) : Bool :=
  raw || (unescapeText s.plain).isSome

/-- Where the reading of a field stands: in a text of one or three quotes, or between texts. -/
structure FieldState where
  quote : Option (Char × Bool) := none
  opened : List String := []

/-- Whether a character may end the expression of a field. -/
def mayEndField (c : Char) : Bool :=
  c = '!' || c = ':' || c = '\x7d' || c = '=' || c = '<' || c = '>'

/-- The expression of a field, and the rest from the character that ends it. Comparison operators
do not end it; backslashes and comments are mistakes. -/
def fieldExpression (st : FieldState) : List Char → Option (List Char × List Char)
  | [] => none
  | c :: t =>
    if c = '\\' then none
    else
      match st.quote with
      | some (q, triple) =>
        if c = q then
          if triple then
            match t with
            | [] => none
            | [_] => none
            | a :: b :: r =>
              if a = q ∧ b = q then
                (fieldExpression { st with quote := none } r).map fun p => (c :: a :: b :: p.1, p.2)
              else (fieldExpression st (a :: b :: r)).map fun p => (c :: p.1, p.2)
          else (fieldExpression { st with quote := none } t).map fun p => (c :: p.1, p.2)
        else (fieldExpression st t).map fun p => (c :: p.1, p.2)
      | none =>
        if isQuote c then
          match t with
          | a :: b :: r =>
            if a = c ∧ b = c then
              (fieldExpression { st with quote := some (c, true) } r).map fun p =>
                (c :: a :: b :: p.1, p.2)
            else
              (fieldExpression { st with quote := some (c, false) } (a :: b :: r)).map fun p =>
                (c :: p.1, p.2)
          | [_] | [] => none
        else if c = '#' then none
        else if st.opened.isEmpty && mayEndField c then
          match t with
          | d :: r =>
            if d = '=' ∧ c ≠ ':' ∧ c ≠ '\x7d' then
              (fieldExpression st r).map fun p => (c :: d :: p.1, p.2)
            else if c = '<' ∨ c = '>' then
              (fieldExpression st (d :: r)).map fun p => (c :: p.1, p.2)
            else some ([], c :: t)
          | [] => if c = '<' ∨ c = '>' then none else some ([], c :: t)
        else
          match (Token.op (String.singleton c)).nest st.opened with
          | none => none
          | some opened =>
            (fieldExpression { st with opened := opened } t).map fun p => (c :: p.1, p.2)

/-- Whether a character separates tokens. -/
def isGapChar (c : Char) : Bool := c = ' ' || c = '\t' || c = '\n' || c = '\x0c'

/-- What follows a conversion such as `!r`. -/
def afterConversion : List Char → Option (List Char)
  | '!' :: c :: r => if c = 's' ∨ c = 'r' ∨ c = 'a' then some r else none
  | ['!'] => none
  | cs => some cs

/-- What follows an equals sign and the blanks after it. -/
def afterEquals : List Char → List Char
  | '=' :: r => r.dropWhile Numeral.isGap
  | cs => cs

end ChainLint.Guard
