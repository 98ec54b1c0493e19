/-!
# Sets of characters as ranges

A property of characters is kept as sorted, disjoint ranges of code points.
A table is written as lines of numbers in base 36: for each range the gap
since the end of the range before it, then its length less one.
-/

namespace ChainLint

/-- Ranges of code points, both ends included. -/
structure RangeTable where
  ranges : List (Nat × Nat)

namespace RangeTable

/-- The value of a digit in base 36; other characters count as zero. -/
def digitValue (c : Char) : Nat :=
  if '0' ≤ c ∧ c ≤ '9' then c.toNat - '0'.toNat
  else if 'a' ≤ c ∧ c ≤ 'z' then c.toNat - 'a'.toNat + 10
  else 0

/-- The numbers of a text, which are separated by single blanks. -/
def numbers (text : List Char) : List Nat :=
  let step := fun (acc : Nat × List Nat) (c : Char) =>
    if c = ' ' then (0, acc.1 :: acc.2) else (acc.1 * 36 + digitValue c, acc.2)
  let (last, done) := text.foldl step (0, [])
  (last :: done).reverse

/-- Reads gaps and lengths alternately, starting after code point `last`. -/
def ofNumbers (last : Nat) : List Nat → List (Nat × Nat)
  | gap :: len :: rest =>
    let low := last + gap
    (low, low + len) :: ofNumbers (low + len) rest
  | _ => []

/-- The table that lines of numbers describe. -/
def ofLines (lines : List String) : RangeTable :=
  ⟨ofNumbers 0 (lines.flatMap fun line => numbers line.toList)⟩

/-- Whether some range holds the code point. -/
def contains (t : RangeTable) (n : Nat) : Bool :=
  t.ranges.any fun r => r.1 ≤ n && n ≤ r.2

end RangeTable

end ChainLint
