import ChainLint.Number.Binary64
/-!
# The shortest decimal text of a number

Of all decimals that round to a number the text shows one with the fewest
digits, and of those the nearest. A number whose first digit stands between
the fourth place after the point and the sixteenth before it is written with a
point; any other has an exponent of at least two digits.
-/

namespace ChainLint.Binary64

/-- The interval of reals that round to a number, in quarters of its last binary place `2 ^ unit`. -/
structure Neighbourhood where
  value : Nat
  low : Nat
  high : Nat
  unit : Int
  /-- The ends of the interval round to the number too. -/
  closed : Bool

/-- The neighbourhood of a positive number. -/
def neighbourhood (mantissa : Nat) (exponent : Int) : Neighbourhood :=
  let shift := min (52 - (Nat.log2 mantissa : Int)) (exponent + 1074)
  let m := mantissa * Nat.pow 2 shift.natAbs
  let q := exponent - shift
  let below := if m = Nat.pow 2 52 ∧ -1074 < q then 1 else 2
  ⟨4 * m, 4 * m - below, 4 * m + 2, q - 2, m % 2 = 0⟩

/-- The nearest of the two neighbours on the grid of tens to the `x`, if it lies in the
neighbourhood. -/
def Neighbourhood.onGrid? (n : Neighbourhood) (x : Int) : Option Nat :=
  let (a, b) := pow2 n.unit
  let (p, q) := pow10 x
  let num := a * q
  let den := b * p
  let down := n.value * num / den
  let inside := fun (d : Nat) =>
    if n.closed then n.low * num ≤ d * den ∧ d * den ≤ n.high * num
    else n.low * num < d * den ∧ d * den < n.high * num
  let rest := 2 * (n.value * num - down * den)
  let nearer := if rest < den ∨ (rest = den ∧ down % 2 = 0) then down else down + 1
  let farther := if nearer = down then down + 1 else down
  if inside nearer then some nearer
  else if inside farther then some farther
  else none

/-- How many digits stand before the decimal point (negative for leading zeros after it). -/
def Neighbourhood.places (n : Neighbourhood) : Int :=
  let bits : Int := (Nat.log2 n.value : Int) + n.unit
  let guess := bits * 30103 / 100000
  let below := fun (k : Int) =>
    let (a, b) := pow2 n.unit
    let (p, q) := pow10 k
    n.value * a * q < p * b
  if below guess then guess
  else if below (guess + 1) then guess + 1
  else guess + 2

/-- The digits and the exponent of the first grid with a hit, coarse grids first. -/
def Neighbourhood.search (n : Neighbourhood) (places : Int) : List Nat → Nat × Int
  | [] => (0, 0)
  | count :: more =>
    let x := places - count
    match n.onGrid? x with
    | some d => (d, x)
    | none => n.search places more

/-- The shortest decimal of a positive number: digits and the power of ten they count. -/
def shortest (mantissa : Nat) (exponent : Int) : Nat × Int :=
  let n := neighbourhood mantissa exponent
  n.search n.places ((List.range 17).map (· + 1))

/-- How a decimal is laid out. -/
structure DecimalStyle where
  /-- The lowest and the highest position of the point, counted from the first digit, that is
  written without an exponent. -/
  lowest : Int
  highest : Int
  /-- Whether a whole number shows `.0`. -/
  showsPoint : Bool

/-- Numbers from 0.0001 up to 10 to the 16 are written with a point, always shown. -/
def plainStyle : DecimalStyle := ⟨-3, 16, true⟩

/-- As the plain style, but whole numbers show no point. -/
def bareStyle : DecimalStyle := ⟨-3, 16, false⟩

/-- Drops the zeros at the end. -/
def stripZeros (cs : List Char) : List Char :=
  (cs.reverse.dropWhile (· = '0')).reverse

/-- The exponent with its sign and at least two digits. -/
def exponentText (e : Int) : String :=
  let digits := toString e.natAbs
  let padded := if e.natAbs < 10 then "0" ++ digits else digits
  (if e < 0 then "e-" else "e+") ++ padded

/-- Digits, with the point after `point` of them, in a style. -/
def DecimalStyle.layout (style : DecimalStyle) (digits : List Char) (point : Int) : String :=
  let count : Int := digits.length
  if style.lowest ≤ point ∧ point ≤ style.highest then
    if point ≤ 0 then
      "0." ++ String.ofList (List.replicate point.natAbs '0' ++ digits)
    else if count ≤ point then
      String.ofList (digits ++ List.replicate (point - count).natAbs '0') ++
        (if style.showsPoint then ".0" else "")
    else
      String.ofList (digits.take point.natAbs ++ '.' :: digits.drop point.natAbs)
  else
    let mantissa := match digits with
      | [d] => [d]
      | d :: rest => d :: '.' :: rest
      | [] => []
    String.ofList mantissa ++ exponentText (point - 1)

/-- The text of a number in a style. -/
def DecimalStyle.text (style : DecimalStyle) : Binary64 → String
  | .nan => "nan"
  | .infinity s => if s then "-inf" else "inf"
  | .finite s m e =>
    let body :=
      if m = 0 then (if style.showsPoint then "0.0" else "0")
      else
        let (d, x) := shortest m e
        let all := (toString d).toList
        style.layout (stripZeros all) (all.length + x)
    (if s then "-" else "") ++ body

/-- The text of a number. -/
def text (x : Binary64) : String := plainStyle.text x

end ChainLint.Binary64
