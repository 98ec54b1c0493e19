import ChainLint.Guard.Fault
import ChainLint.Guard.Term
import ChainLint.Text.Surrogate
import ChainLint.Tree.Resolve
import ChainLint.Tree.Shape
/-!
# The values of guard expressions

Guards compute with plain data and with the node at hand, its unit and its
span, the identity of the callee and shapes. A value also knows the place
where it is kept, if it is kept anywhere: `is` holds of values kept in the same
place, and of small values that are equal.
-/

namespace ChainLint.Guard

/-- Where a value is kept: a path from a name or a node. A value just computed is kept nowhere. -/
inductive Place
  | nowhere
  | slot (path : List String)
deriving DecidableEq, Repr

/-- Whether two values are kept in the same place. -/
def Place.same : Place → Place → Bool
  | .slot p, .slot q => p = q
  | _, _ => false

/-- The place of a part of a value. -/
def Place.part : Place → String → Place
  | .slot p, s => .slot (s :: p)
  | .nowhere, _ => .nowhere

/-- A value of a guard expression. -/
inductive Value
  | none
  | bool (b : Bool)
  | int (n : Int) (place : Place)
  | float (x : Binary64) (place : Place)
  | complex (re im : Binary64) (place : Place)
  | text (s : String) (place : Place)
  | bytes (b : List UInt8) (place : Place)
  | ellipsis
  | list (items : List Value) (place : Place)
  | tuple (items : List Value) (place : Place)
  | dict (entries : List (Value × Value)) (place : Place)
  | node (e : Expr)
  | span (s : Span) (owner : Int)
  | unit (u : CodeUnit)
  | symbol (p : SymbolPath)
  | shape (s : Shape)
deriving Repr, Inhabited

namespace Value

/-- Whether a value counts as true: not none, false, a zero or empty. -/
def isTruthy : Value → Bool
  | .none => false
  | .bool b => b
  | .int n _ => n ≠ 0
  | .float x _ => !x.isZero
  | .complex re im _ => !(re.isZero && im.isZero)
  | .text s _ => s ≠ ""
  | .bytes b _ => !b.isEmpty
  | .list items _ | .tuple items _ => !items.isEmpty
  | .dict entries _ => !entries.isEmpty
  | _ => true

/-! ## Being the same object -/

/-- Whether a whole number is small enough to exist only once. -/
def isSmall (n : Int) : Bool := -5 ≤ n && n ≤ 256

/-- Whether a text is so short that it exists only once. -/
def isShort (s : String) : Bool :=
  match s.toList with
  | [] => true
  | [c] => c.toNat ≤ 255
  | _ => false

/-- Whether two values are the same object. -/
def sameObject : Value → Value → Bool
  | .none, .none => true
  | .bool a, .bool b => a = b
  | .int m p, .int n q => p.same q || (m = n && isSmall m)
  | .float _ p, .float _ q => p.same q
  | .complex _ _ p, .complex _ _ q => p.same q
  | .text s p, .text t q => p.same q || (s = t && isShort s)
  | .bytes b p, .bytes c q => p.same q || (b = c && b.length ≤ 1)
  | .ellipsis, .ellipsis => true
  | .list _ p, .list _ q => p.same q
  | .tuple a p, .tuple b q => p.same q || (a.isEmpty && b.isEmpty)
  | .dict _ p, .dict _ q => p.same q
  | .node e, .node f => e.id = f.id
  | .span _ m, .span _ n => m = n
  | .unit _, .unit _ => true
  | .symbol _, .symbol _ => true
  | .shape s, .shape t => s = t
  | _, _ => false

/-! ## Being equal -/

/-- A number as its real and imaginary part; truth values are numbers. -/
def number? : Value → Option (Binary64 × Binary64)
  | .bool b => some (Binary64.exact (if b then 1 else 0), Binary64.zero)
  | .int n _ => some (Binary64.exact n, Binary64.zero)
  | .float x _ => some (x, Binary64.zero)
  | .complex re im _ => some (re, im)
  | _ => Option.none

/-- Whether two numbers are equal; no number equals what is no number. -/
def equalNumbers (a b : Binary64 × Binary64) : Bool :=
  Binary64.compare? a.1 b.1 == some .eq && Binary64.compare? a.2 b.2 == some .eq

mutual

/-- Whether two values are equal. -/
def equal : Value → Value → Bool
  | .none, .none => true
  | .ellipsis, .ellipsis => true
  | .text s _, .text t _ => s = t
  | .bytes b _, .bytes c _ => b = c
  | .list a _, .list b _ => equalAll a b
  | .tuple a _, .tuple b _ => equalAll a b
  | .dict a _, .dict b _ => a.length = b.length && equalEntries a b
  | .node e, .node f => e == f
  | .span s _, .span t _ => s = t
  | .unit u, .unit v => u == v
  | .symbol p, .symbol q => p = q
  | .shape s, .shape t => s = t
  | a, b =>
    match number? a, number? b with
    | some x, some y => equalNumbers x y
    | _, _ => false

/-- Whether values agree item by item; an item agrees with itself even if it is no number. -/
def equalAll : List Value → List Value → Bool
  | [], [] => true
  | a :: as, b :: bs => (sameObject a b || equal a b) && equalAll as bs
  | _, _ => false

/-- Whether every entry has an equal one among others. -/
def equalEntries : List (Value × Value) → List (Value × Value) → Bool
  | [], _ => true
  | (k, v) :: r, others =>
    others.any (fun e => equal k e.1 && (sameObject v e.2 || equal v e.2)) && equalEntries r others

end

/-- Whether an item counts as another one: the same object, or equal. -/
def agrees (a b : Value) : Bool := sameObject a b || equal a b

/-! ## Order -/

/-- Whether an order answers a comparison for order. -/
def holds (op : Comparison) (o : Ordering) : Bool :=
  match op with
  | .lt => o == .lt
  | .le => o != .gt
  | .gt => o == .gt
  | .ge => o != .lt
  | _ => false

/-- The order of texts and bytes: by their codes, a proper beginning first. -/
def compareCodes : List Nat → List Nat → Ordering
  | [], [] => .eq
  | [], _ => .lt
  | _, [] => .gt
  | a :: as, b :: bs => if a < b then .lt else if b < a then .gt else compareCodes as bs

/-- The codes of a text. -/
def codes (s : String) : List Nat := s.toList.map Text.Surrogate.code

/-- A real number; complex ones have no order. -/
def real? : Value → Option Binary64
  | .complex .. => Option.none
  | v => (number? v).map (·.1)

mutual

/-- Compares for order. Numbers compare with numbers, texts with texts, bytes with bytes, lists with
lists and tuples with tuples. -/
def ordered (op : Comparison) : Value → Value → Except Fault Bool
  | .text s _, .text t _ => .ok (holds op (compareCodes (codes s) (codes t)))
  | .bytes b _, .bytes c _ =>
    .ok (holds op (compareCodes (b.map (·.toNat)) (c.map (·.toNat))))
  | .list a _, .list b _ => orderedAll op a b
  | .tuple a _, .tuple b _ => orderedAll op a b
  | a, b =>
    match real? a, real? b with
    | some x, some y => .ok (((Binary64.compare? x y).map (holds op)).getD false)
    | _, _ => .error .misfit

/-- Compares by the first items that differ, or else by length. -/
def orderedAll (op : Comparison) : List Value → List Value → Except Fault Bool
  | [], [] => .ok (holds op .eq)
  | [], _ => .ok (holds op .lt)
  | _, [] => .ok (holds op .gt)
  | a :: as, b :: bs => if agrees a b then orderedAll op as bs else ordered op a b

end

/-! ## Parts of values -/

mutual

/-- Whether a value may be a key. -/
def isHashable : Value → Bool
  | .list .. | .dict .. | .node _ | .span .. | .unit _ => false
  | .tuple items _ => allHashable items
  | _ => true

/-- Whether all values may be keys. -/
def allHashable : List Value → Bool
  | [] => true
  | v :: r => isHashable v && allHashable r

end

/-- The items that one passes in turn when going through a value. -/
def items? : Value → Option (List Value)
  | .list items _ | .tuple items _ => some items
  | .dict entries _ => some (entries.map (·.1))
  | .text s _ => some (s.toList.map fun c => .text (String.singleton c) .nowhere)
  | .bytes b _ => some (b.map fun x => .int x.toNat .nowhere)
  | _ => Option.none

/-- Whether a list occurs in another one without gaps. -/
def occurs {α : Type} [BEq α] (part : List α) : List α → Bool
  | [] => part.isEmpty
  | x :: r => part.isPrefixOf (x :: r) || occurs part r

/-- Whether the second value holds the first. -/
def contains (x : Value) : Value → Except Fault Bool
  | .list items _ | .tuple items _ => .ok (items.any fun y => agrees y x)
  | .dict entries _ =>
    if isHashable x then .ok (entries.any fun e => agrees e.1 x) else .error .misfit
  | .text s _ =>
    match x with
    | .text t _ => .ok (occurs t.toList s.toList)
    | _ => .error .misfit
  | .bytes b _ =>
    let byte := fun (n : Int) =>
      if 0 ≤ n ∧ n < 256 then .ok (b.any fun y => y.toNat = n.toNat) else .error .noByte
    match x with
    | .bytes c _ => .ok (occurs c b)
    | .int n _ => byte n
    | .bool t => byte (if t then 1 else 0)
    | _ => .error .misfit
  | _ => .error .misfit

/-- An index that may count from the end. -/
def position? (length : Nat) (n : Int) : Option Nat :=
  let i := if n < 0 then n + length else n
  if 0 ≤ i ∧ i < length then some i.toNat else Option.none

/-- A whole number used as an index. -/
def index? : Value → Option Int
  | .int n _ => some n
  | .bool b => some (if b then 1 else 0)
  | _ => Option.none

/-- The item at an index, or the value under a key. -/
def itemAt (v index : Value) : Except Fault Value :=
  match v with
  | .dict entries _ =>
    if isHashable index then
      match entries.find? fun e => agrees e.1 index with
      | some e => .ok e.2
      | Option.none => .error .noKey
    else .error .misfit
  | .list .. | .tuple .. | .text .. | .bytes .. =>
    match index? index, v.items? with
    | some n, some items =>
      match (position? items.length n).bind fun i => items[i]? with
      | some item => .ok item
      | Option.none => .error .outOfRange
    | _, _ => .error .misfit
  | _ => .error .misfit

/-- The number with the other sign. -/
def negate : Value → Except Fault Value
  | .bool b => .ok (.int (if b then -1 else 0) .nowhere)
  | .int n _ => .ok (.int (-n) .nowhere)
  | .float x _ => .ok (.float x.neg .nowhere)
  | .complex re im _ => .ok (.complex re.neg im.neg .nowhere)
  | _ => .error .misfit

end Value

end ChainLint.Guard
