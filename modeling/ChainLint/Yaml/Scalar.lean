import ChainLint.Text.Hex
import ChainLint.Text.Surrogate
import ChainLint.Yaml.Cursor
import ChainLint.Yaml.Fault
/-!
# The texts of scalars

A scalar is written plain, between quotes or as a block. In plain and quoted
scalars a single line break stands for a space; of several in a row the first
is dropped. Block scalars keep their lines or fold them in the same manner.
-/

namespace ChainLint.Yaml

/-- What a line break and the empty lines after it stand for. -/
def folded (lineBreak : Char) (breaks : List Char) : List Char :=
  if lineBreak ≠ '\n' then lineBreak :: breaks
  else if breaks.isEmpty then [' ']
  else breaks

/-! ## Plain scalars -/

/-- How many characters from here on belong to a plain scalar without spaces. In brackets and braces
a plain scalar ends at their marks as well. -/
def plainLength (inFlow : Bool) : List Char → Nat
  | [] => 0
  | c :: r =>
    let next := r.headD endMark
    if isSpaced c then 0
    else if c = ':' && (isSpaced next || (inFlow && ",[]\x7b\x7d".toList.contains next)) then 0
    else if inFlow && ",?[]\x7b\x7d".toList.contains c then 0
    else plainLength inFlow r + 1

/-- The breaks of empty lines; none if a mark between documents comes first. -/
def plainBreaks : Nat → List Char → Cursor → Option (List Char) × Cursor
  | 0, acc, c => (some acc.reverse, c)
  | fuel + 1, acc, c =>
    if c.peek = ' ' then plainBreaks fuel acc c.next
    else
      match c.lineBreak? with
      | none => (some acc.reverse, c)
      | some (b, c) => if c.atSeparator then (none, c) else plainBreaks fuel (b :: acc) c

/-- The space within a plain scalar: what it stands for, the place after it, and whether it holds a
line break. It stands for nothing before a mark between documents. -/
def plainSpaces (c : Cursor) : List Char × Cursor × Bool :=
  let (spaces, c) := c.takeWhile (· = ' ')
  match c.lineBreak? with
  | none => (spaces, c, false)
  | some (b, c) =>
    if c.atSeparator then ([], c, true)
    else
      match plainBreaks c.bound [] c with
      | (none, c) => ([], c, true)
      | (some breaks, c) => (folded b breaks, c, true)

/-- A plain scalar, read on from some space before it: its text, the place after it, and whether a
line break has come last. Lines have to be indented by `indent` at least, except in brackets. -/
def plainText (inFlow : Bool) (indent : Int) :
    Nat → Bool → List Char → Cursor → List Char × Cursor × Bool
  | 0, broken, _, c => ([], c, broken)
  | fuel + 1, broken, space, c =>
    let length := plainLength inFlow c.rest
    if c.peek = '#' ∨ length = 0 then ([], c, broken)
    else
      let piece := space ++ c.rest.take length
      let (space, c, broken) := plainSpaces (c.advance length)
      if space.isEmpty || c.peek = '#' || (!inFlow && (c.column : Int) < indent) then
        (piece, c, broken)
      else
        let (more, c, broken) := plainText inFlow indent fuel broken space c
        (piece ++ more, c, broken)

/-! ## Quoted scalars -/

/-- The character that an escape of one letter stands for. -/
def escape? (c : Char) : Option Char :=
  match c with
  | '0' => some '\x00'
  | 'a' => some '\x07'
  | 'b' => some '\x08'
  | 't' | '\t' => some '\t'
  | 'n' => some '\n'
  | 'v' => some '\x0b'
  | 'f' => some '\x0c'
  | 'r' => some '\r'
  | 'e' => some '\x1b'
  | ' ' | '\x22' | '\\' | '/' => some c
  | 'N' => some '\x85'
  | '_' => some '\xa0'
  | 'L' => some '\u2028'
  | 'P' => some '\u2029'
  | _ => none

/-- How many digits follow the letter of a numeric escape. -/
def escapeDigits? (c : Char) : Option Nat :=
  match c with
  | 'x' => some 2
  | 'u' => some 4
  | 'U' => some 8
  | _ => none

/-- The character of a code, which may be a surrogate. -/
def charOfCode (n : Nat) : Except Fault Char :=
  if n ≤ 0x10ffff then .ok (Text.Surrogate.toChar n)
  else if n < 0x80000000 then .error .unsuitable
  else .error .tooLarge

/-- The breaks of empty lines in a quoted scalar, which no mark between documents may interrupt. -/
def quotedBreaks : Nat → Cursor → Except Fault (List Char × Cursor)
  | 0, c => .ok ([], c)
  | fuel + 1, c =>
    if c.atSeparator then .error .malformed
    else
      let c := c.dropWhile fun ch => ch = ' ' || ch = '\t'
      match c.lineBreak? with
      | none => .ok ([], c)
      | some (b, c) => do
        let (more, c) ← quotedBreaks fuel c
        return (b :: more, c)

/-- An escape after its backslash. -/
def quotedEscape (c : Cursor) : Except Fault (List Char × Cursor) :=
  match escape? c.peek, escapeDigits? c.peek with
  | some e, _ => .ok ([e], c.next)
  | none, some count =>
    let digits := c.next.rest.take count
    match Text.hexNumber? digits with
    | some n =>
      if digits.length = count then do
        return ([← charOfCode n], c.next.advance count)
      else .error .malformed
    | none => .error .malformed
  | none, none =>
    match c.lineBreak? with
    | some (_, c) => quotedBreaks c.bound c
    | none => .error .malformed

/-- The space within a quoted scalar. -/
def quotedSpaces (c : Cursor) : Except Fault (List Char × Cursor) :=
  let (spaces, c) := c.takeWhile fun ch => ch = ' ' || ch = '\t'
  if c.rest.isEmpty then .error .malformed
  else
    match c.lineBreak? with
    | none => .ok (spaces, c)
    | some (b, c) => do
      let (breaks, c) ← quotedBreaks c.bound c
      return (folded b breaks, c)

/-- A quoted scalar after its opening quote, and the place after the closing one. Only double quotes
admit escapes; between single quotes a quote is written twice. -/
def quotedText (double : Bool) : Nat → List (List Char) → Cursor → Except Fault (List Char × Cursor)
  | 0, _, _ => .error .malformed
  | fuel + 1, acc, c =>
    let quote := if double then '\x22' else '\x27'
    let (run, c) := c.takeWhile fun ch => !("\x27\x22\\".toList.contains ch || isSpaced ch)
    let acc := run :: acc
    if !double && c.peek = '\x27' && c.peekAt 1 = '\x27' then
      quotedText double fuel (['\x27'] :: acc) (c.advance 2)
    else if c.peek = quote then .ok (acc.reverse.flatten, c.next)
    else if double && c.peek = '\\' then do
      let (piece, c) ← quotedEscape c.next
      quotedText double fuel (piece :: acc) c
    else if c.peek = '\x27' || c.peek = '\x22' || c.peek = '\\' then
      quotedText double fuel ([c.peek] :: acc) c.next
    else do
      let (piece, c) ← quotedSpaces c
      quotedText double fuel (piece :: acc) c

/-! ## Block scalars -/

/-- What happens to the line breaks at the end of a block scalar. -/
inductive Chomping
  | strip
  | clip
  | keep
deriving DecidableEq, Repr

/-- The mark of chomping here. -/
def chomping? (c : Cursor) : Option Chomping :=
  if c.peek = '+' then some .keep else if c.peek = '-' then some .strip else none

/-- The digit of indentation here, if there is one; zero is a mistake. -/
def indentation? (c : Cursor) : Except Fault (Option Nat) :=
  if c.peek.isDigit then
    if c.peek = '0' then .error .malformed else .ok (some (c.peek.toNat - 48))
  else .ok none

/-- The marks after the sign of a block scalar, in either order: chomping and indentation. -/
def blockMarks (c : Cursor) : Except Fault (Chomping × Option Nat × Cursor) :=
  match chomping? c with
  | some m => do
    let c := c.next
    match ← indentation? c with
    | some n => return (m, some n, c.next)
    | none => return (m, none, c)
  | none => do
    match ← indentation? c with
    | some n =>
      let c := c.next
      match chomping? c with
      | some m => return (m, some n, c.next)
      | none => return (.clip, some n, c)
    | none => return (.clip, none, c)

/-- The line break that ends a line after spaces and a comment; at the end of the text there is
none. -/
def restOfLine (c : Cursor) : Except Fault Cursor :=
  let c := c.skipSpaces.skipComment
  if endsLine c.peek then .ok ((c.lineBreak?.map (·.2)).getD c) else .error .malformed

/-- The leading empty lines of a block scalar and the largest indentation met in them and in the
first line after them. -/
def blockIndentation : Nat → List Char → Nat → Cursor → List Char × Nat × Cursor
  | 0, acc, most, c => (acc.reverse, most, c)
  | fuel + 1, acc, most, c =>
    if c.peek = ' ' then blockIndentation fuel acc (max most (c.column + 1)) c.next
    else
      match c.lineBreak? with
      | some (b, c) => blockIndentation fuel (b :: acc) most c
      | none => (acc.reverse, most, c)

/-- The spaces before a column. -/
def skipIndent : Nat → Nat → Cursor → Cursor
  | 0, _, c => c
  | fuel + 1, indent, c =>
    if c.column < indent && c.peek = ' ' then skipIndent fuel indent c.next else c

/-- The empty lines between lines of a block scalar, and the indentation after them. -/
def blockBreaks (indent : Nat) : Nat → List Char → Cursor → List Char × Cursor
  | 0, acc, c => (acc.reverse, c)
  | fuel + 1, acc, c =>
    let c := skipIndent c.bound indent c
    match c.lineBreak? with
    | some (b, c) => blockBreaks indent fuel (b :: acc) c
    | none => (acc.reverse, c)

/-- Whether a line of a block scalar goes on here. -/
def atBlockLine (indent : Nat) (c : Cursor) : Bool := c.column = indent && !c.rest.isEmpty

/-- The lines of a block scalar from one of its lines on, which empty lines `breaks` precede. -/
def blockLines (fold : Bool) (mode : Chomping) (indent : Nat) :
    Nat → List Char → Cursor → List Char × Cursor
  | 0, _, c => ([], c)
  | fuel + 1, breaks, c =>
    let starts := fun (c : Cursor) => c.peek ≠ ' ' && c.peek ≠ '\t'
    let flush := starts c
    let (line, c) := c.takeWhile fun ch => !isBreak ch
    let (ending, c) := match c.lineBreak? with
      | some (b, c) => ([b], c)
      | none => ([], c)
    let (after, c) := blockBreaks indent c.bound [] c
    if atBlockLine indent c then
      let join :=
        if fold && ending = ['\n'] && flush && starts c then
          (if after.isEmpty then [' '] else [])
        else ending
      let (more, c) := blockLines fold mode indent fuel after c
      (breaks ++ line ++ join ++ more, c)
    else
      let tail := match mode with
        | .strip => []
        | .clip => ending
        | .keep => ending ++ after
      (breaks ++ line ++ tail, c)

/-- A block scalar after its sign, inside a collection indented by `outer`. -/
def blockText (fold : Bool) (outer : Int) (c : Cursor) : Except Fault (List Char × Cursor) := do
  let (mode, mark, c) ← blockMarks c
  let c ← if endsWord c.peek then restOfLine c else .error .malformed
  let least := (max (outer + 1) 1).toNat
  let (breaks, indent, c) := match mark with
    | none =>
      let (breaks, most, c) := blockIndentation c.bound [] 0 c
      (breaks, max least most, c)
    | some n =>
      let indent := least + n - 1
      let (breaks, c) := blockBreaks indent c.bound [] c
      (breaks, indent, c)
  if atBlockLine indent c then return blockLines fold mode indent c.bound breaks c
  else return (if mode = .keep then breaks else [], c)

end ChainLint.Yaml
