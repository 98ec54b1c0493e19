import ChainLint.Number.Binary64
import ChainLint.Text.Blank
import ChainLint.Text.Digit
/-!
# Reading numbers

Numerals may stand between blanks, carry a sign, and have single underscores
between digits; decimal digits of every script count. The four separators
that `isBlank` admits below the space do not count as blanks here. Whole
numbers are read up to `maxDigits` digits, leading zeros among them, unless the
base is a power of two.
-/

namespace ChainLint.Numeral

/-- The blanks that may surround a numeral. -/
def isGap (c : Char) : Bool :=
  if c.toNat < 128 then (9 ≤ c.toNat && c.toNat ≤ 13) || c.toNat = 32 else Text.isBlank c

/-- The numeral without the blanks around it. -/
def trimmed (s : String) : List Char := Text.trimList isGap s.toList

/-- The sign and what follows it. -/
def sign : List Char → Bool × List Char
  | '-' :: r => (true, r)
  | '+' :: r => (false, r)
  | r => (false, r)

/-- The value of a digit up to `z` in either case. -/
def digit? (c : Char) : Option Nat :=
  match Text.digitValue? c with
  | some d => some d
  | none =>
    if 'a' ≤ c ∧ c ≤ 'z' then some (c.toNat - 'a'.toNat + 10)
    else if 'A' ≤ c ∧ c ≤ 'Z' then some (c.toNat - 'A'.toNat + 10)
    else none

/-- Reads digits after a digit; an underscore has to stand before another digit. -/
def moreDigits (base : Nat) (value : Nat) : List Char → Option Nat
  | [] => some value
  | '_' :: c :: r =>
    match digit? c with
    | some d => if d < base then moreDigits base (value * base + d) r else none
    | none => none
  | c :: r =>
    match digit? c with
    | some d => if d < base then moreDigits base (value * base + d) r else none
    | none => none

/-- Reads one digit or more. -/
def digits (base : Nat) : List Char → Option Nat
  | [] => none
  | c :: r =>
    match digit? c with
    | some d => if d < base then moreDigits base d r else none
    | none => none

/-- Drops the mark of a base, such as `0x`, and an underscore after it. -/
def dropMark (base : Nat) (cs : List Char) : List Char :=
  let letter := match base with
    | 2 => some 'b'
    | 8 => some 'o'
    | 16 => some 'x'
    | _ => none
  match cs, letter with
  | '0' :: m :: r, some l =>
    if m.toLower = l then (match r with | '_' :: t => t | t => t) else cs
  | _, _ => cs

/-- The most digits of a whole number in a base that is no power of two. -/
def maxDigits : Nat := 4300

/-- Whether numbers in a base are read at any length, as they are where the base is a power of two. -/
def isUnlimited (base : Nat) : Bool := [2, 4, 8, 16, 32].contains base

/-- The digits and underscores at the head of some characters. -/
def headDigits (base : Nat) (cs : List Char) : List Char :=
  cs.takeWhile fun c => c = '_' || (digit? c).any (· < base)

/-- The number of digits at the head of some characters where there are too many. What follows them does
not count, and underscores in wrong places are a mistake of their own. -/
def surplus? (base : Nat) (cs : List Char) : Option Nat :=
  let head := headDigits base cs
  let length := head.countP (· ≠ '_')
  if !isUnlimited base && maxDigits < length && (digits base head).isSome then some length else none

/-- Why a text writes no whole number. -/
inductive Fault
  | malformed
  /-- There are too many digits, so many. -/
  | tooLong (digits : Nat)
deriving DecidableEq, Repr

/-- The whole number that a text writes in a base up to 36. -/
def read (base : Nat) (s : String) : Except Fault Int :=
  let (negative, body) := sign (trimmed s)
  let ds := dropMark base body
  match surplus? base ds with
  | some length => .error (.tooLong length)
  | none =>
    match digits base ds with
    | some n => .ok (if negative then -(n : Int) else n)
    | none => .error .malformed

/-- The whole number that a text writes, if there is one. -/
def int? (base : Nat) (s : String) : Option Int := (read base s).toOption

/-- Replaces digits of every script by ASCII ones and drops underscores between digits; none if an
underscore stands elsewhere. -/
def plainDigits (last : Bool) : List Char → Option (List Char)
  | [] => some []
  | '_' :: c :: r =>
    if last && (Text.digitValue? c).isSome then plainDigits true (c :: r) else none
  | c :: r =>
    match Text.digitValue? c with
    | some d => (plainDigits true r).map (Char.ofNat (48 + d) :: ·)
    | none => if c = '_' then none else (plainDigits false r).map (c :: ·)

/-- The number of ASCII digits, read after `value`. -/
def natOf (value : Nat) (cs : List Char) : Nat :=
  cs.foldl (fun n c => n * 10 + (c.toNat - 48)) value

/-- The exponent part of a decimal, from its `e` on. -/
def exponent? : List Char → Option Int
  | [] => some 0
  | e :: r =>
    if e = 'e' ∨ e = 'E' then
      let (negative, ds) := sign r
      if ds ≠ [] ∧ ds.all Char.isDigit then
        some (if negative then -(natOf 0 ds : Int) else natOf 0 ds)
      else none
    else none

/-- A decimal without sign: digits around an optional point, then an optional exponent. -/
def decimal? (negative : Bool) (cs : List Char) : Option Binary64 :=
  let whole := cs.takeWhile Char.isDigit
  let rest := cs.dropWhile Char.isDigit
  let (fraction, tail) := match rest with
    | '.' :: r => (r.takeWhile Char.isDigit, r.dropWhile Char.isDigit)
    | r => ([], r)
  if whole = [] ∧ fraction = [] then none
  else (exponent? tail).map fun x =>
    Binary64.ofDecimal negative (natOf (natOf 0 whole) fraction) (x - fraction.length)

/-- The number that a text writes as a decimal, `inf`, `infinity` or `nan`. -/
def float? (s : String) : Option Binary64 :=
  let (negative, body) := sign (trimmed s)
  let word := String.ofList (body.map Char.toLower)
  if word = "inf" ∨ word = "infinity" then some (.infinity negative)
  else if word = "nan" then some .nan
  else (plainDigits false body).bind (decimal? negative)

end ChainLint.Numeral
