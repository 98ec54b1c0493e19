import ChainLint.Datum.Calendar
import ChainLint.Number.Binary64
/-!
# Document values

What a parsed document holds: scalars, lists, mappings in the order written,
and the rarer collections of YAML. A container that is an item of itself
stands as `again` inside itself: how many containers up it is, and its content
unrolled a little further, for readers that look inside.
-/

namespace ChainLint

/-- A value of a document. -/
inductive Datum
  | null
  | bool (b : Bool)
  | int (n : Int)
  | float (x : Binary64)
  | text (s : String)
  | bytes (b : List UInt8)
  | date (d : Calendar.Date)
  | moment (m : Calendar.Moment)
  | list (items : List Datum)
  | tuple (items : List Datum)
  | set (items : List Datum)
  | map (entries : List (Datum × Datum))
  | again (up : Nat) (container : Datum)
deriving BEq, Repr, Inhabited

namespace Datum

/-- The value itself; a container met again counts as the container. -/
def core : Datum → Datum
  | .again _ c => c
  | d => d

/-- Whether the value counts as true: not null, false, a zero or empty. -/
def isTruthy : Datum → Bool
  | .null => false
  | .bool b => b
  | .int n => n ≠ 0
  | .float x => !x.isZero
  | .text s => s ≠ ""
  | .bytes b => !b.isEmpty
  | .date _ | .moment _ => true
  | .list items | .tuple items | .set items => !items.isEmpty
  | .map entries => !entries.isEmpty
  | .again _ c => isTruthy c

/-- Whether the value is null. -/
def isNull : Datum → Bool
  | .null => true
  | _ => false

/-- Whether the value is the truth value true, and no other value that counts as true. -/
def isTrue : Datum → Bool
  | .bool b => b
  | _ => false

/-- Whether the value is null or one of the empty text, list and mapping. -/
def isBare : Datum → Bool
  | .null => true
  | .text s => s = ""
  | .list items => items.isEmpty
  | .map entries => entries.isEmpty
  | _ => false

/-- The value that one passes in turn when going through a value: items, keys, characters or
bytes. None if the value has no items. -/
def items? : Datum → Option (List Datum)
  | .list items | .tuple items | .set items => some items
  | .map entries => some (entries.map (·.1))
  | .text s => some (s.toList.map fun c => .text (String.singleton c))
  | .bytes b => some (b.map fun x => .int x.toNat)
  | .again _ c => items? c
  | _ => none

/-- A use that the kind of a value does not allow, and that is no statement about a format. -/
inductive Misuse
  /-- Items were asked of a value that has none. -/
  | noItems
  /-- A whole number was asked of infinity. -/
  | infinite
deriving DecidableEq, Repr

/-- The items of a field; a field that is absent or counts as false has none. -/
def fieldItems (d : Option Datum) : Except Misuse (List Datum) :=
  match d with
  | none => .ok []
  | some d =>
    if d.isTruthy then
      match d.items? with
      | some items => .ok items
      | none => .error .noItems
    else .ok []

/-- The value under a text key. -/
def field? (k : String) : List (Datum × Datum) → Option Datum
  | [] => none
  | (.text s, v) :: r => if s = k then some v else field? k r
  | _ :: r => field? k r

/-- The value under a text key, null counting as absent. -/
def present? (k : String) (entries : List (Datum × Datum)) : Option Datum :=
  match field? k entries with
  | some .null => none
  | d => d

/-- Whether a text key is there. -/
def hasField (k : String) (entries : List (Datum × Datum)) : Bool :=
  (field? k entries).isSome

theorem sizeOf_core (d : Datum) : sizeOf d.core ≤ sizeOf d := by
  cases d <;> simp [core]

theorem sizeOf_field? {k : String} {entries : List (Datum × Datum)} {v : Datum}
    (h : field? k entries = some v) : sizeOf v < sizeOf entries := by
  fun_induction field? k entries with
  | case1 => simp at h
  | case2 => simp_all; omega
  | case3 s w r hs ih => have := ih h; simp; omega
  | case4 e r _ ih => have := ih h; simp; omega

theorem sizeOf_present? {k : String} {entries : List (Datum × Datum)} {v : Datum}
    (h : present? k entries = some v) : sizeOf v < sizeOf entries := by
  unfold present? at h
  split at h
  · simp at h
  · exact sizeOf_field? h

end Datum

end ChainLint
