import ChainLint.Guard.Fault
import ChainLint.Guard.Grammar
import ChainLint.Text.Blank
import ChainLint.Text.LineEnd
/-!
# Guard expressions from text

The blanks around an expression do not count, and ends of lines are all the
same.
-/

namespace ChainLint.Guard

/-- How deep the reading of so many characters may go: no construct takes more than forty steps for a
character. -/
def readingDepth (length : Nat) : Nat := 40 * (length + 4)

/-- The expression of some characters. -/
def parse? (cs : List Char) : Option Term := do
  let ts ← Token.scan cs
  let depth := readingDepth cs.length
  let (p, r) ← expression depth ts
  let rest ← moreExpressions depth r
  return if r.head? == some (.op ",") then .tuple (p.term :: rest) else p.term

/-- The first run of lone surrogates. -/
def surrogates? (cs : List Char) : Option ReadFault :=
  let isUnit := fun c => (Text.Surrogate.unit? c).isSome
  let before := cs.takeWhile fun c => !isUnit c
  match cs.dropWhile fun c => !isUnit c with
  | [] => none
  | c :: r =>
    some (.surrogates before.length (1 + (r.takeWhile isUnit).length) (Text.Surrogate.code c))

/-- Reads a guard expression. -/
def read (s : String) : Except ReadFault Term :=
  if let some fault := surrogates? s.toList then .error fault
  else if s.toList.contains '\x00' then .error .nullCharacter
  else
    match parse? (Text.unifyLineEnds s.toList) with
    | some t => .ok t
    | none => .error .malformed

/-- The term of a guard, without the blanks around it; a blank guard has none. -/
def ofText (s : String) : Except ReadFault (Option Term) :=
  let s := Text.trim s
  if s = "" then .ok none else some <$> read s

end ChainLint.Guard
