/-!
# Typed trees

A node of a typed tree has a number of its own, a kind and, depending on the
kind, a callee, arguments and other children. `walk` visits a tree with a stack
of the trees still to visit; `preorder` says by recursion what the visit yields:
a node, then its callee, its arguments and its children, each with all below.
-/

namespace ChainLint

/-- A stretch of a source file. -/
structure Span where
  file : String
  lineStart : Int
  colStart : Int
  lineEnd : Int
  colEnd : Int
deriving DecidableEq, Repr

/-- A node with all below it. A call has a callee and arguments, a method call its receiver as
callee; a path has the text written at the use. -/
structure Expr where
  id : Int
  kind : String
  span : Option Span := none
  callee : Option Expr := none
  args : List Expr := []
  children : List Expr := []
  path : Option String := none
  typeArgs : List String := []
  text : Option String := none
deriving Repr, Inhabited

namespace Expr

/-! ## Being equal -/

mutual

/-- Whether two nodes are equal with all below them. -/
def equal : Expr → Expr → Bool
  | ⟨id, kind, span, callee, args, children, path, typeArgs, text⟩,
    ⟨id', kind', span', callee', args', children', path', typeArgs', text'⟩ =>
    id = id' && kind = kind' && span = span' && equalCallee callee callee' && equalAll args args' &&
      equalAll children children' && path = path' && typeArgs = typeArgs' && text = text'

/-- Whether two callees are equal with all below them, or there are none. -/
def equalCallee : Option Expr → Option Expr → Bool
  | none, none => true
  | some e, some e' => equal e e'
  | _, _ => false

/-- Whether the nodes of two lists are equal one by one. -/
def equalAll : List Expr → List Expr → Bool
  | [], [] => true
  | e :: r, e' :: r' => equal e e' && equalAll r r'
  | _, _ => false

end

mutual

theorem equal_iff : ∀ {e e' : Expr}, equal e e' = true ↔ e = e'
  | ⟨id, kind, span, callee, args, children, path, typeArgs, text⟩,
    ⟨id', kind', span', callee', args', children', path', typeArgs', text'⟩ => by
    simp only [equal, Bool.and_eq_true, decide_eq_true_eq, equalCallee_iff, equalAll_iff, mk.injEq, and_assoc]

theorem equalCallee_iff : ∀ {c c' : Option Expr}, equalCallee c c' = true ↔ c = c'
  | none, none => by simp [equalCallee]
  | none, some e' => by simp [equalCallee]
  | some e, none => by simp [equalCallee]
  | some e, some e' => by simp only [equalCallee, equal_iff, Option.some.injEq]

theorem equalAll_iff : ∀ {l l' : List Expr}, equalAll l l' = true ↔ l = l'
  | [], [] => by simp [equalAll]
  | [], e' :: r' => by simp [equalAll]
  | e :: r, [] => by simp [equalAll]
  | e :: r, e' :: r' => by
    simp only [equalAll, Bool.and_eq_true, equal_iff, equalAll_iff, List.cons.injEq]

end

instance : DecidableEq Expr := fun _ _ => decidable_of_iff _ equal_iff

/-- The trees right below a node, in document order. -/
def parts (e : Expr) : List Expr := e.callee.toList ++ e.args ++ e.children

theorem sizeOf_part {e p : Expr} (h : p ∈ e.parts) : sizeOf p < sizeOf e := by
  obtain ⟨id, kind, span, callee, args, children, path, typeArgs, text⟩ := e
  simp only [parts, List.mem_append, Option.mem_toList] at h
  rcases h with (h | h) | h
  · subst h
    simp; omega
  · have := List.sizeOf_lt_of_mem h
    simp; omega
  · have := List.sizeOf_lt_of_mem h
    simp; omega

/-! ## The walk -/

/-- The size of the trees on a stack. -/
noncomputable def stackSize : List Expr → Nat
  | [] => 0
  | e :: stack => sizeOf e + stackSize stack

theorem stackSize_append (s t : List Expr) : stackSize (s ++ t) = stackSize s + stackSize t := by
  induction s with
  | nil => simp [stackSize]
  | cons e s ih => simp only [List.cons_append, stackSize, ih]; omega

theorem stackSize_lt (es : List Expr) : stackSize es < sizeOf es := by
  induction es with
  | nil => simp [stackSize]
  | cons e r ih => simp only [stackSize, List.cons.sizeOf_spec]; omega

theorem stackSize_parts_lt (e : Expr) : stackSize e.parts < sizeOf e := by
  obtain ⟨id, kind, span, callee, args, children, path, typeArgs, text⟩ := e
  have ha := stackSize_lt args
  have hc := stackSize_lt children
  cases callee with
  | none => simp [parts, stackSize_append]; omega
  | some c => simp [parts, stackSize, stackSize_append]; omega

/-- Visits the top of the stack and puts what is below it in its place. -/
def walkFrom : List Expr → List Expr
  | [] => []
  | e :: stack => e :: walkFrom (e.parts ++ stack)
termination_by stack => stackSize stack
decreasing_by
  have := stackSize_parts_lt e
  simp only [stackSize_append, stackSize]
  omega

/-- The nodes of a tree in the order in which they are visited. -/
def walk (e : Expr) : List Expr := walkFrom [e]

/-! ## The same order by recursion -/

/-- A node, then the nodes below it, part by part. -/
def preorder (e : Expr) : List Expr :=
  e :: e.parts.attach.flatMap fun p => preorder p.1
termination_by sizeOf e
decreasing_by exact sizeOf_part p.2

end Expr

end ChainLint
