import ChainLint.Datum.Calendar
import ChainLint.Yaml.Fault
/-!
# Dates and times in YAML

A date is a year of four digits, a month and a day; a time of day may follow a
`T` or blanks, with a fraction of seconds and an offset from universal time.
-/

namespace ChainLint.Yaml

/-- A date, or a date with a time, as it is written. -/
structure TimeText where
  date : Calendar.Date
  /-- Whether month and day have two digits each. -/
  isPadded : Bool
  /-- Hour, minute, second, microsecond and offset in seconds. -/
  time : Option (Nat × Nat × Nat × Nat × Option Int)

namespace TimeText

/-- The value of a digit. -/
def digitOf (c : Char) : Nat := c.toNat - 48

/-- A number of exactly two digits. -/
def two? : List Char → Option (Nat × List Char)
  | a :: b :: r =>
    if a.isDigit && b.isDigit then some (digitOf a * 10 + digitOf b, r) else none
  | _ => none

/-- A number of one or two digits. -/
def oneOrTwo? : List Char → Option (Nat × List Char)
  | a :: r =>
    if !a.isDigit then none
    else
      match two? (a :: r) with
      | some p => some p
      | none => some (digitOf a, r)
  | [] => none

/-- What follows a character that has to stand here. -/
def after? (c : Char) : List Char → Option (List Char)
  | d :: r => if d = c then some r else none
  | [] => none

/-- Drops spaces and tabs. -/
def dropGap (cs : List Char) : List Char := cs.dropWhile fun c => c = ' ' || c = '\t'

/-- The microseconds that digits after a point write; those after the sixth do not count. -/
def microseconds (digits : List Char) : Nat :=
  ((digits ++ List.replicate 6 '0').take 6).foldl (fun n c => n * 10 + digitOf c) 0

/-- The offset at the end of a time: none is written, or universal time, or hours and minutes. -/
def offset? (cs : List Char) : Option (Option Int) :=
  if cs.isEmpty then some none
  else
    match dropGap cs with
    | ['Z'] => some (some 0)
    | sign :: r =>
      if sign = '+' ∨ sign = '-' then do
        let (hours, r) ← oneOrTwo? r
        let minutes ← match r with
          | [] => some 0
          | _ => do
            let (m, r) ← two? (← after? ':' r)
            if r.isEmpty then some m else none
        let seconds : Int := hours * 3600 + minutes * 60
        some (some (if sign = '-' then -seconds else seconds))
      else none
    | [] => none

/-- The time of day after a date. -/
def time? (cs : List Char) : Option (Nat × Nat × Nat × Nat × Option Int) := do
  let r ← match cs with
    | c :: r => if c = 'T' ∨ c = 't' then some r else if c = ' ' ∨ c = '\t' then some (dropGap r) else none
    | [] => none
  let (hour, r) ← oneOrTwo? r
  let (minute, r) ← two? (← after? ':' r)
  let (second, r) ← two? (← after? ':' r)
  let (fraction, r) := match r with
    | '.' :: r => (r.takeWhile Char.isDigit, r.dropWhile Char.isDigit)
    | r => ([], r)
  let offset ← offset? r
  some (hour, minute, second, microseconds fraction, offset)

/-- Reads a date, or a date with a time. -/
def ofList? (cs : List Char) : Option TimeText := do
  let (century, r) ← two? cs
  let (year, r) ← two? r
  let r ← after? '-' r
  let (month, r') ← oneOrTwo? r
  let monthIsPadded := (two? r).isSome
  let r ← after? '-' r'
  let (day, r') ← oneOrTwo? r
  let dayIsPadded := (two? r).isSome
  let time ← if r'.isEmpty then some none else some <$> time? r'
  some ⟨⟨century * 100 + year, month, day⟩, monthIsPadded && dayIsPadded, time⟩

/-- Whether a plain scalar of this form is a time: a bare date needs two digits for month and day. -/
def isPlain (t : TimeText) : Bool := t.isPadded || t.time.isSome

end TimeText

end ChainLint.Yaml
