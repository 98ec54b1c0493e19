import ChainLint.Datum.Key
import ChainLint.Number.Numeral
import ChainLint.Text.Base64
import ChainLint.Yaml.Tag
/-!
# The values of scalars

What a text means under a tag. A tag that does not fit the text is a fault,
whose kind depends on where the reading of the text gives up.
-/

namespace ChainLint.Yaml

/-- A scalar with its underscores left out. -/
def withoutLines (text : String) : String := String.ofList (text.toList.filter (· ≠ '_'))

/-- The sign of a number and what follows it. -/
def signed : List Char → Bool × List Char
  | '-' :: r => (true, r)
  | '+' :: r => (false, r)
  | r => (false, r)

/-- A whole number in a base; a text that is none does not suit. -/
def whole (base : Nat) (cs : List Char) : Except Fault Int :=
  match Numeral.int? base (String.ofList cs) with
  | some n => .ok n
  | none => .error .unsuitable

/-- The parts of a text between colons. -/
def colonParts (cs : List Char) : List (List Char) := cs.splitOn ':'

/-- A whole number: marked by `0b`, `0x` or a leading zero as binary, hexadecimal or octal; with
colons, in base sixty. -/
def intValue (text : String) : Except Fault Int := do
  let cs := (withoutLines text).toList
  if cs.isEmpty then throw .noDigits
  let (negative, body) := signed cs
  let magnitude ← match body with
    | [] => throw .noDigits
    | ['0'] => pure 0
    | '0' :: 'b' :: r => whole 2 r
    | '0' :: 'x' :: r => whole 16 r
    | '0' :: _ => whole 8 body
    | _ =>
      if body.contains ':' then do
        let digits ← (colonParts body).mapM (whole 10)
        pure (digits.foldl (fun n d => n * 60 + d) 0)
      else whole 10 body
  return if negative then -magnitude else magnitude

/-- A number with a point; a text that is none does not suit. -/
def decimal (cs : List Char) : Except Fault Binary64 :=
  match Numeral.float? (String.ofList cs) with
  | some x => .ok x
  | none => .error .unsuitable

/-- The sum of numbers times powers of sixty, the lowest first. -/
def sixtySum (total : Binary64) (power : Nat) : List Binary64 → Binary64
  | [] => total
  | d :: r => sixtySum (total.add (d.mul (Binary64.ofInt power))) (power * 60) r

/-- A number with a point, infinity or no number; with colons, in base sixty. -/
def floatValue (text : String) : Except Fault Binary64 := do
  let cs := (withoutLines text).toList.map Char.toLower
  if cs.isEmpty then throw .noDigits
  let (negative, body) := signed cs
  let word := String.ofList body
  let magnitude ←
    if word = ".inf" then pure (.infinity false)
    else if word = ".nan" then return .nan
    else if body.contains ':' then do
      let digits ← (colonParts body).mapM decimal
      pure (sixtySum Binary64.zero 1 digits.reverse)
    else decimal body
  return if negative then magnitude.neg else magnitude

/-- A truth value. -/
def boolValue (text : String) : Except Fault Bool :=
  let word := String.ofList (text.toList.map Char.toLower)
  if ["yes", "true", "on"].contains word then .ok true
  else if ["no", "false", "off"].contains word then .ok false
  else .error .noTruth

/-- Bytes in base 64. -/
def binaryValue (text : String) : Except Fault (List UInt8) :=
  if text.toList.all fun c => c.toNat < 128 then
    match Text.decodeBase64 text.toList with
    | some b => .ok b
    | none => .error .malformed
  else .error .malformed

/-- A date or a moment in the calendar. -/
def timeValue (text : String) : Except Fault Datum :=
  match TimeText.ofList? (Tag.dropLastBreak text.toList) with
  | none => .error .noTime
  | some ⟨date, _, none⟩ => if date.isValid then .ok (.date date) else .error .unsuitable
  | some ⟨date, _, some (hour, minute, second, microsecond, offset)⟩ =>
    let m : Calendar.Moment := { date, hour, minute, second, microsecond, offset }
    if m.isValid then .ok (.moment m) else .error .unsuitable

/-- The value of a text under a tag for scalars; other tags have none. -/
def scalarValue (tag : Tag) (text : String) : Except Fault Datum :=
  match tag with
  | .null => .ok .null
  | .bool => Datum.bool <$> boolValue text
  | .int => Datum.int <$> intValue text
  | .float => Datum.float <$> floatValue text
  | .binary => Datum.bytes <$> binaryValue text
  | .time => timeValue text
  | .text => .ok (.text text)
  | _ => .error .malformed

end ChainLint.Yaml
