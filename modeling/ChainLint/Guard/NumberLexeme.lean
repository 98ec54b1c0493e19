import ChainLint.Guard.Term
import ChainLint.Number.Numeral
import ChainLint.Text.Hex
/-!
# Numbers in guard expressions

Whole numbers in base ten, sixteen, eight or two, decimals with a point or an
exponent, and imaginary numbers, which end in `j`. Single underscores may stand
between digits. A whole number in base ten does not start with a zero unless it is
zero, and is no longer than numerals are. A letter right after a number is a
mistake, unless it begins an operator word.
-/

namespace ChainLint.Guard

/-- Whether a character may continue a word; beyond ASCII every character may at first. -/
def isWordChar (c : Char) : Bool := c.isAlphanum || c = '_' || 128 ≤ c.toNat

/-- Whether a character may start a word. -/
def isWordStart (c : Char) : Bool := c.isAlpha || c = '_' || 128 ≤ c.toNat

/-- The words that may follow a number without a blank. -/
def wordsAfterNumber : List String := ["and", "else", "for", "if", "in", "is", "not", "or"]

/-- Whether a number may end before these characters. -/
def mayEndNumber (rest : List Char) : Bool :=
  !(rest.head?.any isWordChar) || wordsAfterNumber.any fun w => w.toList.isPrefixOf rest

/-- Digits of a kind after a digit, with single underscores between them, and what follows. -/
def digitTail (isDigit : Char → Bool) : List Char → Option (List Char × List Char)
  | [] => some ([], [])
  | '_' :: d :: r =>
    if isDigit d then (digitTail isDigit r).map fun p => (d :: p.1, p.2) else none
  | ['_'] => none
  | c :: r =>
    if isDigit c then (digitTail isDigit r).map fun p => (c :: p.1, p.2) else some ([], c :: r)

/-- One digit or more of a kind. -/
def digitRun (isDigit : Char → Bool) : List Char → Option (List Char × List Char)
  | c :: r =>
    if isDigit c then (digitTail isDigit r).map fun p => (c :: p.1, p.2) else none
  | [] => none

/-- A number in another base, after the mark of the base. -/
def basedNumber (base : Nat) (cs : List Char) : Option (Literal × List Char) := do
  let isDigit := fun (c : Char) => (Text.hexValue? c).any (· < base)
  let cs := match cs with
    | '_' :: r => r
    | r => r
  let (ds, rest) ← digitRun isDigit cs
  if mayEndNumber rest then
    some (.int (ds.foldl (fun n c => n * base + (Text.hexValue? c).getD 0) 0), rest)
  else none

/-- The exponent at the head of some characters: its value, and what follows. None means a broken
exponent; no exponent has no value. -/
def exponentPart (cs : List Char) : Option (Option Int × List Char) :=
  match cs with
  | e :: r =>
    if e = 'e' ∨ e = 'E' then
      match r with
      | '+' :: t => (digitRun Char.isDigit t).map fun p => (some (Numeral.natOf 0 p.1 : Int), p.2)
      | '-' :: t => (digitRun Char.isDigit t).map fun p => (some (-(Numeral.natOf 0 p.1 : Int)), p.2)
      | d :: _ =>
        if d.isDigit then
          (digitRun Char.isDigit r).map fun p => (some (Numeral.natOf 0 p.1 : Int), p.2)
        else some (none, cs)
      | [] => some (none, cs)
    else some (none, cs)
  | [] => some (none, cs)

/-- The digits after a point at the head of some characters; none if there is no point. -/
def fractionPart (cs : List Char) : Option (Option (List Char) × List Char) :=
  match cs with
  | '.' :: r =>
    if r.head?.any Char.isDigit then
      (digitRun Char.isDigit r).map fun p => (some p.1, p.2)
    else some (some [], r)
  | _ => some (none, cs)

/-- A number in base ten. -/
def decimalNumber (cs : List Char) : Option (Literal × List Char) := do
  let (whole, r) ←
    if cs.head?.any Char.isDigit then digitRun Char.isDigit cs else some ([], cs)
  let (fraction, r) ← fractionPart r
  let (exponent, r) ← exponentPart r
  let places := fraction.getD []
  let value := Binary64.ofDecimal false (Numeral.natOf 0 (whole ++ places))
    (exponent.getD 0 - places.length)
  match r with
  | j :: rest =>
    if j = 'j' ∨ j = 'J' then
      if mayEndNumber rest then some (.imaginary value, rest) else none
    else finish whole fraction exponent value r
  | [] => finish whole fraction exponent value r
where
  /-- The number before characters that cannot belong to it. -/
  finish (whole : List Char) (fraction : Option (List Char)) (exponent : Option Int)
      (value : Binary64) (rest : List Char) : Option (Literal × List Char) :=
    if !mayEndNumber rest then none
    else if fraction.isSome || exponent.isSome then some (.float value, rest)
    else if whole.head? = some '0' && whole.any (· ≠ '0') then none
    else if whole.head? ≠ some '0' && Numeral.maxDigits < whole.length then none
    else some (.int (Numeral.natOf 0 whole), rest)

/-- The number at the head of some characters. -/
def numberLexeme (cs : List Char) : Option (Literal × List Char) :=
  match cs with
  | '0' :: m :: r =>
    if m = 'x' ∨ m = 'X' then basedNumber 16 r
    else if m = 'o' ∨ m = 'O' then basedNumber 8 r
    else if m = 'b' ∨ m = 'B' then basedNumber 2 r
    else decimalNumber cs
  | _ => decimalNumber cs

end ChainLint.Guard
