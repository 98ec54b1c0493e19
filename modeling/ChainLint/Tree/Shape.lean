import ChainLint.Tree.TypeTable
/-!
# Shapes

The shape of a node is the coarse kind of its type. `ShapeMemo` remembers
shapes that were found; faults are not remembered.
-/

namespace ChainLint

/-- The coarse kind of a type. -/
inductive Shape
  | reference
  | rawPointer
  | value
  | other
deriving DecidableEq, Repr

namespace Shape

/-- All shapes. -/
def all : List Shape := [.reference, .rawPointer, .value, .other]

/-- The word for a shape. -/
def name : Shape → String
  | .reference => "reference"
  | .rawPointer => "raw_pointer"
  | .value => "value"
  | .other => "other"

/-- The shape that a word means. -/
def ofName? (s : String) : Option Shape := all.find? fun shape => shape.name = s

/-- The shape of a kind of types. -/
def ofKind (kind : String) : Shape :=
  if kind = referenceKind then .reference
  else if kind = rawPointerKind then .rawPointer
  else if valueKinds.contains kind then .value
  else .other

end Shape

/-- The shape of a node; a node without a type has shape `other`. -/
def TypeTable.shapeOf (t : TypeTable) (node : Int) : Except Malformed Shape := do
  match ← t.ofNode node with
  | some entry => pure (Shape.ofKind entry.kind)
  | none => pure .other

/-- The shapes found so far, by node. -/
structure ShapeMemo where
  known : Table Int Shape

namespace ShapeMemo

/-- Nothing found yet. -/
def empty : ShapeMemo := ⟨Table.empty⟩

/-- The remembered shape, or else the shape by the table, which is then remembered. -/
def shapeOf (memo : ShapeMemo) (t : TypeTable) (node : Int) : Except Malformed Shape × ShapeMemo :=
  match memo.known.get? node with
  | some shape => (.ok shape, memo)
  | none =>
    match t.shapeOf node with
    | .ok shape => (.ok shape, ⟨memo.known.insert node shape⟩)
    | .error fault => (.error fault, memo)

end ShapeMemo

end ChainLint
