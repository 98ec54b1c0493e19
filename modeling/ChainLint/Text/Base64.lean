/-!
# Bytes in base 64

Four characters write three bytes. Characters outside the alphabet are passed
over. Padding ends the text once it completes a group of four; a group left
incomplete is a mistake.
-/

namespace ChainLint.Text

/-- The value of a character of the alphabet. -/
def base64Value? (c : Char) : Option Nat :=
  if 'A' ≤ c ∧ c ≤ 'Z' then some (c.toNat - 'A'.toNat)
  else if 'a' ≤ c ∧ c ≤ 'z' then some (c.toNat - 'a'.toNat + 26)
  else if '0' ≤ c ∧ c ≤ '9' then some (c.toNat - '0'.toNat + 52)
  else if c = '+' then some 62
  else if c = '/' then some 63
  else none

/-- Decodes after `count` characters of a group that left the bits `left`, with `pads` padding
characters since. -/
def decodeBase64From (count left pads : Nat) : List Char → Option (List UInt8)
  | [] => if count = 0 then some [] else none
  | c :: r =>
    if c = '=' then
      if 2 ≤ count then
        if 4 ≤ count + pads + 1 then some [] else decodeBase64From count left (pads + 1) r
      else decodeBase64From count left pads r
    else
      match base64Value? c with
      | none => decodeBase64From count left pads r
      | some v =>
        match count with
        | 0 => decodeBase64From 1 v 0 r
        | 1 => (decodeBase64From 2 (v % 16) 0 r).map (UInt8.ofNat (left * 4 + v / 16) :: ·)
        | 2 => (decodeBase64From 3 (v % 4) 0 r).map (UInt8.ofNat (left * 16 + v / 4) :: ·)
        | _ => (decodeBase64From 0 0 0 r).map (UInt8.ofNat (left * 64 + v) :: ·)

/-- The bytes that a text writes in base 64. -/
def decodeBase64 (cs : List Char) : Option (List UInt8) := decodeBase64From 0 0 0 cs

end ChainLint.Text
