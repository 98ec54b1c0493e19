/-!
# Lone surrogates

An escape such as `\ud800` names half of a surrogate pair, which is no
character. A text keeps it as a stand-in, one of 2048 private-use characters,
and every writer turns the stand-in back into the escape.
-/

namespace ChainLint.Text.Surrogate

/-- The stand-in of the lowest surrogate. -/
def base : Nat := 0x10a000

/-- Whether a number is a surrogate. -/
def isUnit (n : Nat) : Bool := 0xd800 ≤ n && n ≤ 0xdfff

/-- The character that a text keeps for a code point or a surrogate. -/
def toChar (n : Nat) : Char :=
  if isUnit n then Char.ofNat (base + (n - 0xd800)) else Char.ofNat n

/-- The surrogate that a character stands for. -/
def unit? (c : Char) : Option Nat :=
  if base ≤ c.toNat ∧ c.toNat < base + 0x800 then some (0xd800 + (c.toNat - base)) else none

/-- The number written by escapes: the surrogate or the code point. -/
def code (c : Char) : Nat := (unit? c).getD c.toNat

end ChainLint.Text.Surrogate
