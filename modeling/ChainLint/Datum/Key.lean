import ChainLint.Datum.Basic
/-!
# Keys of mappings

Two keys are the same if they are equal as values: numbers by value whatever
their kind, truth values counting as one and zero, moments that know their
offset by the instant. A number that is no number is the same as itself.
-/

namespace ChainLint

namespace Calendar

/-- The days before a year. -/
def daysBeforeYear (year : Nat) : Nat :=
  let y := year - 1
  y * 365 + y / 4 - y / 100 + y / 400

/-- The days of a year before a month. -/
def daysBeforeMonth (year month : Nat) : Nat :=
  (List.range (month - 1)).foldl (fun days m => days + daysIn year (m + 1)) 0

/-- The number of a day, counted from the first day of the first year. -/
def Date.number (d : Date) : Nat := daysBeforeYear d.year + daysBeforeMonth d.year d.month + d.day

/-- The instant of a moment in microseconds, an unknown offset taken for none. -/
def Moment.instant (m : Moment) : Int :=
  let seconds : Int := m.date.number * 86400 + m.hour * 3600 + m.minute * 60 + m.second
  (seconds - m.offset.getD 0) * 1000000 + m.microsecond

end Calendar

namespace Datum

/-- A number by its value. -/
def number? : Datum → Option Binary64
  | .bool b => some (Binary64.exact (if b then 1 else 0))
  | .int n => some (Binary64.exact n)
  | .float x => some x
  | _ => none

/-- Whether two keys are the same. -/
def sameKey : Datum → Datum → Bool
  | .text s, .text t => s = t
  | .bytes b, .bytes c => b = c
  | .null, .null => true
  | .date d, .date e => d = e
  | .moment m, .moment n => m.offset.isSome = n.offset.isSome && m.instant = n.instant
  | .float .nan, .float .nan => true
  | a, b =>
    match number? a, number? b with
    | some x, some y => Binary64.compare? x y == some .eq
    | _, _ => false

/-- Puts an entry; an entry with the same key keeps its key and its place. -/
def putEntry (k v : Datum) : List (Datum × Datum) → List (Datum × Datum)
  | [] => [(k, v)]
  | (k', v') :: r => if sameKey k' k then (k', v) :: r else (k', v') :: putEntry k v r

/-- The mapping of entries put in order. -/
def mapOf (entries : List (Datum × Datum)) : Datum :=
  .map (entries.foldl (fun acc e => putEntry e.1 e.2 acc) [])

/-- The set of values in the order in which they came first. -/
def setOf (items : List Datum) : Datum :=
  .set ((items.foldl (fun acc d => putEntry d .null acc) []).map (·.1))

end Datum

end ChainLint
