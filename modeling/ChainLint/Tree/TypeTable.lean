import ChainLint.Table
import ChainLint.Tree.Malformed
/-!
# The type table

Types have numbers; pointers name the type that they point to. `render` writes
a type as source code does, following pointers at most 33 deep. `Shape` is the
coarse view that rules ask for.
-/

namespace ChainLint

/-- One type. Pointers have an inner type. -/
structure TypeEntry where
  id : Int
  kind : String
  name : Option String
  inner : Option Int
  isMutable : Bool
deriving DecidableEq, Repr

/-- The types of a crate, and the types that inference recorded for nodes. -/
structure TypeTable where
  types : Table Int TypeEntry
  nodeTypes : Table Int Int

/-- The kind of references. -/
def referenceKind : String := "ref"

/-- The kind of raw pointers. -/
def rawPointerKind : String := "raw_ptr"

/-- The kinds of plain values. -/
def valueKinds : List String :=
  ["bool", "char", "int", "uint", "float", "str", "adt", "tuple", "array", "slice", "unit"]

namespace TypeTable

/-- The type of a number. -/
def lookup (t : TypeTable) (type : Int) : Except Malformed TypeEntry :=
  match t.types.get? type with
  | some entry => .ok entry
  | none => .error (.missingType type)

/-- The type recorded for a node, if any. -/
def ofNode (t : TypeTable) (node : Int) : Except Malformed (Option TypeEntry) :=
  match t.nodeTypes.get? node with
  | none => .ok none
  | some type =>
    match t.types.get? type with
    | some entry => .ok (some entry)
    | none => .error (.missingNodeType node type)

/-- The name of a type, or its kind if it has none. -/
def label (entry : TypeEntry) : String :=
  match entry.name with
  | some name => if name = "" then entry.kind else name
  | none => entry.kind

/-- What a pointer type writes in front of its inner type. -/
def pointerMark? (entry : TypeEntry) : Option String :=
  if entry.kind = referenceKind then some (if entry.isMutable then "&mut " else "&")
  else if entry.kind = rawPointerKind then some (if entry.isMutable then "*mut " else "*const ")
  else none

/-- Writes a type, following at most `depth` pointers. -/
def renderWithin (t : TypeTable) (depth : Nat) (type : Int) : Except Malformed String := do
  let entry ← t.lookup type
  match depth with
  | 0 => pure "..."
  | depth + 1 =>
    match pointerMark? entry, entry.inner with
    | some mark, some inner => return mark ++ (← t.renderWithin depth inner)
    | _, _ => pure (label entry)

/-- A type as source code writes it. -/
def render (t : TypeTable) (type : Int) : Except Malformed String := t.renderWithin 33 type

/-- The text of the type recorded for a node, if any. -/
def nodeText (t : TypeTable) (node : Int) : Except Malformed (Option String) :=
  match t.nodeTypes.get? node with
  | none => .ok none
  | some type => some <$> t.render type

end TypeTable

end ChainLint
