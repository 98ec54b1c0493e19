/-!
# Binary floating-point numbers

A finite number is a sign, an odd mantissa and a power of two, so its value is
exact; zero has mantissa and exponent zero. Results are rounded to 53 bits
(fewer below the normal range), to the nearest, a tie to the even mantissa.
-/

namespace ChainLint

/-- A 64-bit binary floating-point number by its value. -/
inductive Binary64
  | nan
  | infinity (negative : Bool)
  | finite (negative : Bool) (mantissa : Nat) (exponent : Int)
deriving DecidableEq, Repr

namespace Binary64

/-- Two to a power, as a fraction of natural numbers. -/
def pow2 (e : Int) : Nat × Nat :=
  if e < 0 then (1, Nat.pow 2 e.natAbs) else (Nat.pow 2 e.natAbs, 1)

/-- Ten to a power, as a fraction of natural numbers. -/
def pow10 (e : Int) : Nat × Nat :=
  if e < 0 then (1, Nat.pow 10 e.natAbs) else (Nat.pow 10 e.natAbs, 1)

/-- Moves factors of two from the mantissa into the exponent. -/
def reduce (mantissa : Nat) (exponent : Int) : Nat × Int :=
  if h : mantissa = 0 then (0, 0)
  else if mantissa % 2 = 0 then reduce (mantissa / 2) (exponent + 1)
  else (mantissa, exponent)
termination_by mantissa
decreasing_by omega

/-- The finite number of a sign, a mantissa and an exponent. -/
def ofParts (negative : Bool) (mantissa : Nat) (exponent : Int) : Binary64 :=
  let (m, e) := reduce mantissa exponent
  .finite negative m e

/-- The quotient rounded to the nearest whole number, a tie to the even one. -/
def roundQuotient (num den : Nat) : Nat :=
  let q := num / den
  let r := 2 * (num % den)
  if r < den then q
  else if den < r then q + 1
  else if q % 2 = 0 then q else q + 1

/-- The largest `e` such that two to the `e` is at most the fraction. -/
def floorLog2 (num den : Nat) : Int :=
  let guess : Int := (Nat.log2 num : Int) - (Nat.log2 den : Int)
  let (p, q) := pow2 guess
  if num * q < den * p then guess - 1 else guess

/-- The number nearest to a fraction. -/
def ofFraction (negative : Bool) (num den : Nat) : Binary64 :=
  if num = 0 then .finite negative 0 0
  else
    let e := max (floorLog2 num den - 52) (-1074)
    let (p, q) := pow2 e
    let m := roundQuotient (num * q) (den * p)
    if Nat.pow 2 1024 ≤ m * p / q then .infinity negative else ofParts negative m e

/-- The number nearest to a mantissa times a power of two. -/
def ofDyadic (negative : Bool) (mantissa : Nat) (exponent : Int) : Binary64 :=
  let (p, q) := pow2 exponent
  ofFraction negative (mantissa * p) q

/-- The number nearest to a whole number. -/
def ofInt (n : Int) : Binary64 := ofFraction (n < 0) n.natAbs 1

/-- The number nearest to decimal digits times a power of ten. Exponents far outside the range are
answered without computing the power. -/
def ofDecimal (negative : Bool) (digits : Nat) (exponent : Int) : Binary64 :=
  if digits = 0 then .finite negative 0 0
  else
    let top : Int := (Nat.log2 digits : Int) * 3 / 10 + exponent
    if 400 < top then .infinity negative
    else if top < -800 then .finite negative 0 0
    else
      let (p, q) := pow10 exponent
      ofFraction negative (digits * p) q

/-- Positive zero. -/
def zero : Binary64 := .finite false 0 0

/-- The number with the other sign. -/
def neg : Binary64 → Binary64
  | .nan => .nan
  | .infinity s => .infinity !s
  | .finite s m e => .finite (!s) m e

/-- Whether the number is zero of either sign. -/
def isZero : Binary64 → Bool
  | .finite _ 0 _ => true
  | _ => false

/-- A signed mantissa as an integer. -/
def signed (negative : Bool) (m : Nat) : Int := if negative then -(m : Int) else m

/-- The order of two exact values, each a signed mantissa and a power of two. -/
def compareDyadic (m : Int) (e : Int) (n : Int) (f : Int) : Ordering :=
  let low := min e f
  compare (m * Nat.pow 2 (e - low).natAbs) (n * Nat.pow 2 (f - low).natAbs)

/-- The order of two numbers; none if either is no number. -/
def compare? : Binary64 → Binary64 → Option Ordering
  | .nan, _ | _, .nan => none
  | .infinity s, .infinity t => some (if s = t then .eq else if s then .lt else .gt)
  | .infinity s, .finite .. => some (if s then .lt else .gt)
  | .finite .., .infinity t => some (if t then .gt else .lt)
  | .finite s m e, .finite t n f => some (compareDyadic (signed s m) e (signed t n) f)

/-- A whole number as an exact value, of any size. -/
def exact (n : Int) : Binary64 := .finite (n < 0) n.natAbs 0

/-- A signed mantissa times a power of two, without the part after the point. -/
def truncate (negative : Bool) (mantissa : Nat) (exponent : Int) : Int :=
  let (p, q) := pow2 exponent
  signed negative (mantissa * p / q)

/-- The rounded product. -/
def mul : Binary64 → Binary64 → Binary64
  | .nan, _ | _, .nan => .nan
  | .infinity s, .infinity t => .infinity (s != t)
  | .infinity s, .finite t n _ => if n = 0 then .nan else .infinity (s != t)
  | .finite s m _, .infinity t => if m = 0 then .nan else .infinity (s != t)
  | .finite s m e, .finite t n f => ofDyadic (s != t) (m * n) (e + f)

/-- The rounded sum. -/
def add : Binary64 → Binary64 → Binary64
  | .nan, _ | _, .nan => .nan
  | .infinity s, .infinity t => if s = t then .infinity s else .nan
  | .infinity s, .finite .. => .infinity s
  | .finite .., .infinity t => .infinity t
  | .finite s m e, .finite t n f =>
    let low := min e f
    let total :=
      signed s m * Nat.pow 2 (e - low).natAbs + signed t n * Nat.pow 2 (f - low).natAbs
    if total = 0 then .finite (s && t) 0 0
    else ofDyadic (total < 0) total.natAbs low

end Binary64

end ChainLint
