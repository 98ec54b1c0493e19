import ChainLint.Datum.Literal
import ChainLint.Number.Numeral
/-!
# Whole numbers from document values

A number gives its whole part, a truth value one or zero, a text or bytes the
number written there. Nothing else stands for a whole number.
-/

namespace ChainLint.Datum

/-- Why a value stands for no whole number. -/
inductive WholeFault
  /-- The kind of the value is no number and no text. -/
  | unsuitable
  /-- The text, which messages show as `shown`, is no numeral. -/
  | notNumeral (shown : String)
  /-- The text has so many digits, more than are read. -/
  | tooLong (digits : Nat)
  | notANumber
  | infinite
deriving DecidableEq, Repr

/-- What is wrong with the value, in words; the unsuitable kinds and infinity have none. -/
def WholeFault.message : WholeFault → String
  | .unsuitable => ""
  | .notNumeral shown => "invalid literal for int() with base 10: " ++ shown
  | .tooLong digits =>
    s!"Exceeds the limit ({Numeral.maxDigits} digits) for integer string conversion: value has {digits} digits" ++
      "; use sys.set_int_max_str_digits() to increase the limit"
  | .notANumber => "cannot convert float NaN to integer"
  | .infinite => ""

/-- The part of a literal that messages have room for. -/
def shortened (literal : String) : String := String.ofList (literal.toList.take 200)

/-- The whole number in a text, of which messages show the literal. -/
def numeralValue (s literal : String) : Except WholeFault Int :=
  match Numeral.read 10 s with
  | .ok n => .ok n
  | .error .malformed => .error (.notNumeral (shortened literal))
  | .error (.tooLong digits) => .error (.tooLong digits)

/-- The text of ASCII bytes; other bytes become a character that no numeral holds. -/
def asciiText (b : List UInt8) : String :=
  String.ofList (b.map fun x => if x < 128 then Char.ofNat x.toNat else '?')

/-- The whole number that a value stands for. -/
def toWhole : Datum → Except WholeFault Int
  | .bool b => .ok (if b then 1 else 0)
  | .int n => .ok n
  | .float .nan => .error .notANumber
  | .float (.infinity _) => .error .infinite
  | .float (.finite s m e) => .ok (Binary64.truncate s m e)
  | .text s => numeralValue s (Text.quoted s)
  | .bytes b => numeralValue (asciiText b) (Text.quotedBytes b)
  | _ => .error .unsuitable

end ChainLint.Datum
