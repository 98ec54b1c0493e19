import ChainLint.Text.Decomposition
/-!
# Compatibility normal form

Identifiers are compared in Unicode's normalization form KC: characters are
decomposed, marks are sorted by their combining class, and what can be composed
is composed again.
-/

namespace ChainLint.Text

/-- The combining class of a character. -/
def combiningClass (n : Nat) : Nat :=
  ((combiningClasses.find? fun r => r.1.1 ≤ n && n ≤ r.1.2).map (·.2)).getD 0

/-- The letters of a Hangul syllable. -/
def hangulLetters (n : Nat) : List Nat :=
  let i := n - 0xac00
  let tail := if i % 28 = 0 then [] else [0x11a7 + i % 28]
  [0x1100 + i / 588, 0x1161 + i % 588 / 28] ++ tail

/-- What a character decomposes to. -/
def decompose (n : Nat) : List Nat :=
  if 0xac00 ≤ n ∧ n ≤ 0xd7a3 then hangulLetters n
  else
    match decompositions.find? fun r => r.first ≤ n && n ≤ r.first + r.more with
    | some r => r.parts.map (· + (n - r.first))
    | none => [n]

/-- The character that two characters compose to. -/
def compose? (a b : Nat) : Option Nat :=
  if 0x1100 ≤ a ∧ a < 0x1113 ∧ 0x1161 ≤ b ∧ b < 0x1176 then
    some (0xac00 + (a - 0x1100) * 588 + (b - 0x1161) * 28)
  else if 0xac00 ≤ a ∧ a ≤ 0xd7a3 ∧ (a - 0xac00) % 28 = 0 ∧ 0x11a7 < b ∧ b < 0x11c3 then
    some (a + (b - 0x11a7))
  else (compositions.find? fun e => e.1.1 = a && e.1.2 = b).map (·.2)

/-- Puts a character last, but before the marks of a higher class that end the sequence, which is
given from its end. -/
def putMark (c : Nat) : List Nat → List Nat
  | [] => [c]
  | d :: r =>
    if combiningClass c ≠ 0 ∧ combiningClass c < combiningClass d then d :: putMark c r
    else c :: d :: r

/-- The characters with marks sorted by their class. -/
def sortMarks (ns : List Nat) : List Nat := (ns.foldl (fun acc c => putMark c acc) []).reverse

/-- A character that begins a sequence, and the marks after it that did not compose, last first. -/
structure Cluster where
  starter : Nat
  marks : List Nat

/-- The characters of a cluster. -/
def Cluster.toList (k : Cluster) : List Nat := k.starter :: k.marks.reverse

/-- Whether a character can reach the beginning of a cluster. -/
def Cluster.isOpenTo (k : Cluster) (c : Nat) : Bool :=
  match k.marks with
  | [] => true
  | m :: _ => combiningClass m < combiningClass c

/-- Composes the characters of a sequence after a cluster. -/
def composeFrom (k : Cluster) : List Nat → List Nat
  | [] => k.toList
  | c :: r =>
    match if k.isOpenTo c then compose? k.starter c else none with
    | some d => composeFrom { k with starter := d } r
    | none =>
      if combiningClass c = 0 then k.toList ++ composeFrom ⟨c, []⟩ r
      else composeFrom { k with marks := c :: k.marks } r

/-- A text in normalization form KC. -/
def normalForm (cs : List Char) : List Char :=
  match sortMarks (cs.flatMap fun c => decompose c.toNat) with
  | [] => []
  | c :: r => (composeFrom ⟨c, []⟩ r).map Char.ofNat

end ChainLint.Text
