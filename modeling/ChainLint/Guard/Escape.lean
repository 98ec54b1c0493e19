import ChainLint.Text.Hex
import ChainLint.Text.Surrogate
/-!
# Escapes in literals

A backslash in a literal starts an escape. An unknown escape stands for
itself, backslash included; a numeric one has to be complete.
-/

namespace ChainLint.Guard

/-- The value of an octal digit. -/
def octalValue? (c : Char) : Option Nat :=
  if '0' ≤ c ∧ c ≤ '7' then some (c.toNat - 48) else none

/-- The character that an escape of one letter stands for. -/
def shortEscape? (c : Char) : Option Char :=
  match c with
  | '\\' => some '\\'
  | '\x27' => some '\x27'
  | '\x22' => some '\x22'
  | 'a' => some '\x07'
  | 'b' => some '\x08'
  | 'f' => some '\x0c'
  | 'n' => some '\n'
  | 'r' => some '\r'
  | 't' => some '\t'
  | 'v' => some '\x0b'
  | _ => none

/-- The codes that a literal writes; `wide` literals are texts and have the escapes for all of
Unicode. -/
def unescape (wide : Bool) : List Char → Option (List Nat)
  | [] => some []
  | ['\\'] => some ['\\'.toNat]
  | '\\' :: '\n' :: r => unescape wide r
  | '\\' :: 'x' :: a :: b :: r => do
    let n ← Text.hexNumber? [a, b]
    return n :: (← unescape wide r)
  | ['\\', 'x'] | ['\\', 'x', _] => none
  | '\\' :: 'u' :: a :: r =>
    if wide then
      match r with
      | b :: c :: d :: r => do
        let n ← Text.hexNumber? [a, b, c, d]
        return n :: (← unescape wide r)
      | _ => none
    else do return 92 :: 117 :: (← unescape wide (a :: r))
  | '\\' :: 'U' :: a :: r =>
    if wide then
      match r with
      | b :: c :: d :: e :: f :: g :: h :: r => do
        let n ← Text.hexNumber? [a, b, c, d, e, f, g, h]
        if n ≤ 0x10ffff then return n :: (← unescape wide r) else none
      | _ => none
    else do return 92 :: 85 :: (← unescape wide (a :: r))
  | '\\' :: c :: r =>
    match octalValue? c with
    | some x =>
      match r with
      | [] => some [x]
      | d :: t =>
        match octalValue? d with
        | none => do return x :: (← unescape wide (d :: t))
        | some y =>
          match t with
          | [] => some [x * 8 + y]
          | e :: u =>
            match octalValue? e with
            | none => do return (x * 8 + y) :: (← unescape wide (e :: u))
            | some z => do return (x * 64 + y * 8 + z) :: (← unescape wide u)
    | none =>
      match shortEscape? c with
      | some c' => do return c'.toNat :: (← unescape wide r)
      | none =>
        if wide && (c = 'N' || c = 'u' || c = 'U') then none
        else do return 92 :: c.toNat :: (← unescape wide r)
  | c :: r => do return c.toNat :: (← unescape wide r)

/-- The text that a literal writes between its quotes. -/
def unescapeText (cs : List Char) : Option String :=
  (unescape true cs).map fun ns => String.ofList (ns.map Text.Surrogate.toChar)

/-- The bytes that a literal writes between its quotes. -/
def unescapeBytes (cs : List Char) : Option (List UInt8) :=
  (unescape false cs).map fun ns => ns.map fun n => UInt8.ofNat (n % 256)

end ChainLint.Guard
