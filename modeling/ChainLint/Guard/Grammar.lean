import ChainLint.Guard.Parsed
/-!
# The grammar of guard expressions

The syntax is that of a larger language, most of which guards may not use; a
construct that they may not use is read and named, so that the report can say
what it is. Each function reads one construct at the head of some tokens and
gives the rest. The first argument bounds the depth of the reading.
-/

namespace ChainLint.Guard

/-- What has come so far in the arguments of a call. -/
inductive ArgumentPhase
  | first
  | plain
  | named
  | unpacked
deriving DecidableEq

/-- What has come so far in the parameters of a function. -/
inductive ParameterPhase
  /-- Whether there was a parameter, a slash, a default. -/
  | leading (any slash default : Bool)
  /-- A star without a name. -/
  | bareStar
  | named
  | done

mutual

/-- An expression. -/
def expression : Nat → List Token → Option (Parsed × List Token)
  | 0, _ => none
  | n + 1, .keyword "lambda" :: r => do
    let r ← parameters n (.leading false false false) r
    let (_, r) ← expression n r
    return (.other "Lambda", r)
  | n + 1, ts => do
    let (body, r) ← disjunction n ts
    match r with
    | .keyword "if" :: r => do
      let (test, r) ← disjunction n r
      let r ← expect (.keyword "else") r
      let (other, r) ← expression n r
      return ({ term := .choice test.term body.term other.term }, r)
    | _ => return (body, r)

/-- The parameters of a function and the colon after them. -/
def parameters : Nat → ParameterPhase → List Token → Option (List Token)
  | 0, _, _ => none
  | n + 1, phase, ts =>
    match ts, phase with
    | .op ":" :: r, .leading .. | .op ":" :: r, .named | .op ":" :: r, .done => some r
    | .op "/" :: r, .leading true false d => moreParameters n (.leading true true d) r
    | .op "*" :: .op "," :: r, .leading .. => parameters n .bareStar r
    | .op "*" :: .name _ :: r, .leading .. => moreParameters n .named r
    | .op "**" :: .name _ :: r, .leading .. | .op "**" :: .name _ :: r, .named =>
      moreParameters n .done r
    | .name _ :: .op "=" :: r, .leading _ slash _ => do
      let (_, r) ← expression n r
      moreParameters n (.leading true slash true) r
    | .name _ :: r, .leading _ slash false => moreParameters n (.leading true slash false) r
    | .name _ :: .op "=" :: r, .named | .name _ :: .op "=" :: r, .bareStar => do
      let (_, r) ← expression n r
      moreParameters n .named r
    | .name _ :: r, .named | .name _ :: r, .bareStar => moreParameters n .named r
    | _, _ => none

/-- Goes on after a parameter: a comma or the colon. -/
def moreParameters : Nat → ParameterPhase → List Token → Option (List Token)
  | 0, _, _ => none
  | n + 1, phase, .op "," :: r => parameters n phase r
  | _, _, .op ":" :: r => some r
  | _, _, _ => none

/-- Terms between `or`. -/
def disjunction : Nat → List Token → Option (Parsed × List Token)
  | 0, _ => none
  | n + 1, ts => do
    let (first, r) ← conjunction n ts
    let (rest, r) ← disjuncts n r
    return (if rest.isEmpty then first else { term := .either (first.term :: rest) }, r)

/-- Further terms after `or`. -/
def disjuncts : Nat → List Token → Option (List Term × List Token)
  | 0, _ => none
  | n + 1, .keyword "or" :: r => do
    let (p, r) ← conjunction n r
    let (rest, r) ← disjuncts n r
    return (p.term :: rest, r)
  | _, ts => some ([], ts)

/-- Terms between `and`. -/
def conjunction : Nat → List Token → Option (Parsed × List Token)
  | 0, _ => none
  | n + 1, ts => do
    let (first, r) ← inversion n ts
    let (rest, r) ← conjuncts n r
    return (if rest.isEmpty then first else { term := .both (first.term :: rest) }, r)

/-- Further terms after `and`. -/
def conjuncts : Nat → List Token → Option (List Term × List Token)
  | 0, _ => none
  | n + 1, .keyword "and" :: r => do
    let (p, r) ← inversion n r
    let (rest, r) ← conjuncts n r
    return (p.term :: rest, r)
  | _, ts => some ([], ts)

/-- A term after any number of `not`. -/
def inversion : Nat → List Token → Option (Parsed × List Token)
  | 0, _ => none
  | n + 1, .keyword "not" :: r => do
    let (p, r) ← inversion n r
    return ({ term := .unary .not p.term }, r)
  | n + 1, ts => do
    let (first, r) ← operand n ts
    let (links, r) ← links n r
    return (if links.isEmpty then first else { term := .compare first.term links }, r)

/-- The links of a chain of comparisons. -/
def links : Nat → List Token → Option (List (Comparison × Term) × List Token)
  | 0, _ => none
  | n + 1, ts =>
    match comparison? ts with
    | none => some ([], ts)
    | some (op, r) => do
      let (p, r) ← operand n r
      let (rest, r) ← links n r
      return ((op, p.term) :: rest, r)

/-- An operand of a comparison. -/
def operand : Nat → List Token → Option (Parsed × List Token)
  | 0, _ => none
  | n + 1, ts => do
    let (first, r) ← factor n ts
    match arithmetic? r with
    | none => return (first, r)
    | some r => do
      let (_, r) ← operand n r
      return (.other "BinOp", r)

/-- A term after signs. -/
def factor : Nat → List Token → Option (Parsed × List Token)
  | 0, _ => none
  | n + 1, .op "-" :: r => do
    let (p, r) ← factor n r
    return ({ term := .unary .minus p.term }, r)
  | n + 1, .op "+" :: r => do
    let (p, r) ← factor n r
    return ({ term := .unary .plus p.term }, r)
  | n + 1, .op "~" :: r => do
    let (p, r) ← factor n r
    return ({ term := .unary .invert p.term }, r)
  | n + 1, ts => do
    let (p, r) ← awaited n ts
    match r with
    | .op "**" :: r => do
      let (_, r) ← factor n r
      return (.other "BinOp", r)
    | _ => return (p, r)

/-- A primary, perhaps after `await`. -/
def awaited : Nat → List Token → Option (Parsed × List Token)
  | 0, _ => none
  | n + 1, .keyword "await" :: r => do
    let (_, r) ← primary n r
    return (.other "Await", r)
  | n + 1, ts => primary n ts

/-- An atom with attributes, calls and items after it. -/
def primary : Nat → List Token → Option (Parsed × List Token)
  | 0, _ => none
  | n + 1, ts => do
    let (p, r) ← atom n ts
    trailers n p r

/-- Attributes, calls and items of a term. -/
def trailers : Nat → Parsed → List Token → Option (Parsed × List Token)
  | 0, _, _ => none
  | n + 1, p, .op "." :: .name id :: r =>
    trailers n { term := .attribute p.term id, isTarget := true } r
  | n + 1, p, .op "(" :: r => do
    let ((args, hasKeywords), r) ← arguments n .first r
    trailers n { term := .call p.term args hasKeywords } r
  | n + 1, p, .op "[" :: r => do
    let (index, r) ← subscript n r
    trailers n { term := .item p.term index, isTarget := true } r
  | _, p, ts => some (p, ts)

/-- The arguments of a call and the parenthesis after them; whether there are named ones. -/
def arguments : Nat → ArgumentPhase → List Token → Option ((List Term × Bool) × List Token)
  | 0, _, _ => none
  | _, _, .op ")" :: r => some (([], false), r)
  | n + 1, phase, .op "*" :: r =>
    if phase = .unpacked then none
    else do
      let (p, r) ← expression n r
      let ((args, k), r) ← moreArguments n (if phase = .first then .plain else phase) r
      return ((p.spread.term :: args, k), r)
  | n + 1, _, .op "**" :: r => do
    let (_, r) ← expression n r
    let ((args, _), r) ← moreArguments n .unpacked r
    return ((args, true), r)
  | n + 1, phase, .name _ :: .op "=" :: r => do
    let (_, r) ← expression n r
    let ((args, _), r) ← moreArguments n (if phase = .unpacked then phase else .named) r
    return ((args, true), r)
  | n + 1, phase, ts =>
    if phase = .named ∨ phase = .unpacked then none
    else do
      let (p, r) ← namedExpression n ts
      match phase, loop? r with
      | .first, some _ => do
        let r ← clauses n r
        let r ← expectOp ")" r
        return (([.unsupported "GeneratorExp"], false), r)
      | _, _ => do
        let ((args, k), r) ← moreArguments n .plain r
        return ((p.term :: args, k), r)

/-- Goes on after an argument: a comma or the parenthesis. -/
def moreArguments : Nat → ArgumentPhase → List Token → Option ((List Term × Bool) × List Token)
  | 0, _, _ => none
  | n + 1, phase, .op "," :: r => arguments n phase r
  | _, _, .op ")" :: r => some (([], false), r)
  | _, _, _ => none

/-- What stands in square brackets after a term, and the closing one. -/
def subscript : Nat → List Token → Option (Term × List Token)
  | 0, _ => none
  | n + 1, ts => do
    let (p, r) ← slice n ts
    match r with
    | .op "]" :: r => return (if p.isSpread then .tuple [p.term] else p.term, r)
    | .op "," :: r => do
      let (rest, r) ← slices n r
      return (.tuple (p.term :: rest), r)
    | _ => none

/-- Further items in square brackets, and the closing one. -/
def slices : Nat → List Token → Option (List Term × List Token)
  | 0, _ => none
  | _, .op "]" :: r => some ([], r)
  | n + 1, ts => do
    let (p, r) ← slice n ts
    match r with
    | .op "]" :: r => return ([p.term], r)
    | .op "," :: r => do
      let (rest, r) ← slices n r
      return (p.term :: rest, r)
    | _ => none

/-- One index: an expression, a spread item or a slice. -/
def slice : Nat → List Token → Option (Parsed × List Token)
  | 0, _ => none
  | n + 1, .op "*" :: r => do
    let (p, r) ← expression n r
    return (p.spread, r)
  | n + 1, .op ":" :: r => sliceRest n r
  | n + 1, ts => do
    let (p, r) ← namedExpression n ts
    match naming? ts, r with
    | none, .op ":" :: r => sliceRest n r
    | _, _ => return (p, r)

/-- A slice after its first colon. -/
def sliceRest : Nat → List Token → Option (Parsed × List Token)
  | 0, _ => none
  | n + 1, ts => do
    let r ← sliceBound n ts
    match r with
    | .op ":" :: r => do
      let r ← sliceBound n r
      return (.other "Slice", r)
    | _ => return (.other "Slice", r)

/-- A bound of a slice, which may be missing. -/
def sliceBound : Nat → List Token → Option (List Token)
  | 0, _ => none
  | _, .op ":" :: r => some (.op ":" :: r)
  | _, .op "," :: r => some (.op "," :: r)
  | _, .op "]" :: r => some (.op "]" :: r)
  | n + 1, ts => do
    let (_, r) ← expression n ts
    return r

/-- An expression, perhaps given a name. -/
def namedExpression : Nat → List Token → Option (Parsed × List Token)
  | 0, _ => none
  | n + 1, ts =>
    match naming? ts with
    | some r => do
      let (_, r) ← expression n r
      return (.other "NamedExpr", r)
    | none => expression n ts

/-- An item of a collection: spread by a star, or an expression that may be given a name. -/
def member : Nat → List Token → Option (Parsed × List Token)
  | 0, _ => none
  | n + 1, .op "*" :: r => do
    let (p, r) ← operand n r
    return (p.spread, r)
  | n + 1, ts => namedExpression n ts

/-- Items up to a closing bracket, a comma allowed after the last. -/
def members : Nat → String → List Token → Option (List Parsed × List Token)
  | 0, _, _ => none
  | n + 1, close, ts =>
    match expectOp close ts with
    | some r => some ([], r)
    | none => do
      let (p, r) ← member n ts
      moreMembers n close p r

/-- Goes on after an item: a comma or the closing bracket. -/
def moreMembers : Nat → String → Parsed → List Token → Option (List Parsed × List Token)
  | 0, _, _, _ => none
  | n + 1, close, p, .op "," :: r => do
    let (rest, r) ← members n close r
    return (p :: rest, r)
  | _, close, p, ts => do
    let r ← expectOp close ts
    return ([p], r)

/-- An atom. -/
def atom : Nat → List Token → Option (Parsed × List Token)
  | 0, _ => none
  | _, .name id :: r => some ({ term := .name id, isTarget := true }, r)
  | _, .keyword "True" :: r => some (.literal (.bool true), r)
  | _, .keyword "False" :: r => some (.literal (.bool false), r)
  | _, .keyword "None" :: r => some (.literal .none, r)
  | _, .op "..." :: r => some (.literal .ellipsis, r)
  | _, .number l :: r => some (.literal l, r)
  | n + 1, .op "(" :: r => parenthesized n r
  | n + 1, .op "[" :: r => listDisplay n r
  | n + 1, .op "\x7b" :: r => braceDisplay n r
  | n + 1, ts => do
    let pieces := ts.takeWhile Token.isText
    let p ← if pieces.isEmpty then none else pieceTerm n pieces
    return (p, ts.dropWhile Token.isText)

/-- What texts next to each other make up. -/
def pieceTerm : Nat → List Token → Option Parsed
  | 0, _ => none
  | n + 1, pieces =>
    match joinBytes pieces, joinTexts pieces with
    | some b, _ => some (.literal (.bytes b))
    | none, some s => some (.literal (.text s))
    | none, none => do
      formattedPieces n pieces
      return .other "JoinedStr"

/-- Checks that pieces are texts and that the fields in them are sound. -/
def formattedPieces : Nat → List Token → Option Unit
  | 0, _ => none
  | _, [] => some ()
  | n + 1, .text _ :: r => formattedPieces n r
  | n + 1, .formatted raw body :: r => do
    let rest ← formatted n raw 0 body
    if rest.isEmpty then formattedPieces n r else none
  | _, _ => none

/-- Checks a text with fields at a level of nesting, and gives what follows it: nothing, or for a
format the closing brace. -/
def formatted : Nat → Bool → Nat → List Char → Option (List Char)
  | 0, _, _, _ => none
  | n + 1, raw, level, cs => do
    let s ← stretch? raw (level ≠ 0) cs
    if !s.isSound raw then none
    else if s.isDoubled then formatted n raw level s.rest
    else
      match s.rest with
      | '\x7b' :: r => do
        let r ← field n raw level r
        formatted n raw level r
      | rest => some rest

/-- Checks a field after its opening brace, and gives what follows it. -/
def field : Nat → Bool → Nat → List Char → Option (List Char)
  | 0, _, _, _ => none
  | n + 1, raw, level, cs => do
    let (body, rest) ← if level < 2 then fieldExpression {} cs else none
    let ts ← if body.all isGapChar then none else Token.scan ('(' :: body ++ [')'])
    let (_, after) ← expression n ts
    let rest ← if after.isEmpty then afterConversion (afterEquals rest) else none
    match rest with
    | '\x7d' :: r => some r
    | ':' :: r => do
      match ← formatted n raw (level + 1) r with
      | '\x7d' :: r => some r
      | _ => none
    | _ => none

/-- What stands in parentheses, and the closing one. -/
def parenthesized : Nat → List Token → Option (Parsed × List Token)
  | 0, _ => none
  | _, .op ")" :: r => some (.items .tuple [], r)
  | n + 1, .keyword "yield" :: .keyword "from" :: r => do
    let (_, r) ← expression n r
    let r ← expectOp ")" r
    return (.other "YieldFrom", r)
  | n + 1, .keyword "yield" :: r => do
    let r ← yielded n r
    return (.other "Yield", r)
  | n + 1, ts => do
    let (p, r) ← member n ts
    match r with
    | .op "," :: r => do
      let (rest, r) ← members n ")" r
      return (.items .tuple (p :: rest), r)
    | .op ")" :: r => if p.isSpread then none else some (p, r)
    | _ => do
      let r ← if p.isSpread then none else clauses n r
      let r ← expectOp ")" r
      return (.other "GeneratorExp", r)

/-- The items of a `yield`, and the parenthesis after them. -/
def yielded : Nat → List Token → Option (List Token)
  | 0, _ => none
  | _, .op ")" :: r => some r
  | n + 1, ts => do
    let (_, r) ← match ts with
      | .op "*" :: r => operand n r
      | _ => expression n ts
    match r with
    | .op "," :: r => yielded n r
    | _ => expectOp ")" r

/-- What stands in square brackets that make a list, and the closing one. -/
def listDisplay : Nat → List Token → Option (Parsed × List Token)
  | 0, _ => none
  | _, .op "]" :: r => some (.items .list [], r)
  | n + 1, ts => do
    let (p, r) ← member n ts
    match loop? r with
    | some _ => do
      let r ← if p.isSpread then none else clauses n r
      let r ← expectOp "]" r
      return (.other "ListComp", r)
    | none => do
      let (ps, r) ← moreMembers n "]" p r
      return (.items .list ps, r)

/-- What stands in braces, and the closing one. -/
def braceDisplay : Nat → List Token → Option (Parsed × List Token)
  | 0, _ => none
  | n + 1, ts =>
    match ts with
    | .op "\x7d" :: _ | .op "**" :: _ => do
      let r ← entries n ts
      return (.other "Dict", r)
    | _ => do
      let (p, r) ← member n ts
      match r, naming? ts, p.isSpread with
      | .op ":" :: r, none, false => do
        let (_, r) ← expression n r
        match loop? r with
        | some _ => do
          let r ← clauses n r
          let r ← expectOp "\x7d" r
          return (.other "DictComp", r)
        | none => do
          let r ← moreEntries n r
          return (.other "Dict", r)
      | _, _, _ =>
        match loop? r with
        | some _ => do
          let r ← if p.isSpread then none else clauses n r
          let r ← expectOp "\x7d" r
          return (.other "SetComp", r)
        | none => do
          let (_, r) ← moreMembers n "\x7d" p r
          return (.other "Set", r)

/-- Entries of a dictionary, and the closing brace. -/
def entries : Nat → List Token → Option (List Token)
  | 0, _ => none
  | _, .op "\x7d" :: r => some r
  | n + 1, .op "**" :: r => do
    let (_, r) ← operand n r
    moreEntries n r
  | n + 1, ts => do
    let (_, r) ← expression n ts
    let r ← expectOp ":" r
    let (_, r) ← expression n r
    moreEntries n r

/-- Goes on after an entry: a comma or the closing brace. -/
def moreEntries : Nat → List Token → Option (List Token)
  | 0, _ => none
  | n + 1, .op "," :: r => entries n r
  | _, ts => expectOp "\x7d" ts

/-- The loops of a comprehension with their conditions. -/
def clauses : Nat → List Token → Option (List Token)
  | 0, _ => none
  | n + 1, ts => do
    let r ← loop? ts
    let r ← targets n r
    let (_, r) ← disjunction n r
    let r ← conditions n r
    match loop? r with
    | some _ => clauses n r
    | none => some r

/-- The conditions of a loop. -/
def conditions : Nat → List Token → Option (List Token)
  | 0, _ => none
  | n + 1, .keyword "if" :: r => do
    let (_, r) ← disjunction n r
    conditions n r
  | _, ts => some ts

/-- The variables of a loop and the `in` after them. -/
def targets : Nat → List Token → Option (List Token)
  | 0, _ => none
  | n + 1, ts => do
    let (p, r) ← match ts with
      | .op "*" :: r => primary n r
      | _ => primary n ts
    match p.isTarget, r with
    | true, .op "," :: .keyword "in" :: r => some r
    | true, .op "," :: r => targets n r
    | true, .keyword "in" :: r => some r
    | _, _ => none

end

/-- Further expressions of a tuple without parentheses; whether a comma was last. -/
def moreExpressions : Nat → List Token → Option (List Term)
  | 0, _ => none
  | n + 1, ts =>
    match ts with
    | .op "," :: r =>
      if r.all (· == .newline) then some []
      else do
        let (p, r) ← expression n r
        return p.term :: (← moreExpressions n r)
    | _ => if ts.all (· == .newline) then some [] else none

end ChainLint.Guard
