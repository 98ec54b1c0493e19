import ChainLint.Tree.Shape
/-!
# A type table in use

Shapes and texts of types are asked for in any order, and in between the types
that are recorded for nodes may change. Shapes that were found are remembered,
whatever is recorded later.
-/

namespace ChainLint

namespace TypeTable

/-- The table with a type recorded for a node. -/
def record (t : TypeTable) (node type : Int) : TypeTable :=
  { t with nodeTypes := t.nodeTypes.insert node type }

/-- The table with no type recorded for a node. -/
def forget (t : TypeTable) (node : Int) : TypeTable :=
  { t with nodeTypes := t.nodeTypes.erase node }

end TypeTable

/-- A type table in use, and the shapes found so far. -/
structure TypeView where
  types : TypeTable
  memo : ShapeMemo

namespace TypeView

/-- A table of which nothing was asked. -/
def start (t : TypeTable) : TypeView := ⟨t, .empty⟩

/-- What may be asked of a table in use, or changed in it. -/
inductive Request
  | shape (node : Int)
  | text (node : Int)
  | record (node type : Int)
  | forget (node : Int)
deriving DecidableEq, Repr

/-- A request with its answer. -/
inductive Event
  | shape (node : Int) (answer : Except Malformed Shape)
  | text (node : Int) (answer : Except Malformed (Option String))
  | record (node type : Int)
  | forget (node : Int)

/-- The request of an event. -/
def Event.request : Event → Request
  | .shape node _ => .shape node
  | .text node _ => .text node
  | .record node type => .record node type
  | .forget node => .forget node

/-- Serves a request. -/
def serve (v : TypeView) : Request → Event × TypeView
  | .shape node =>
    let (answer, memo) := v.memo.shapeOf v.types node
    (.shape node answer, { v with memo })
  | .text node => (.text node (v.types.nodeText node), v)
  | .record node type => (.record node type, { v with types := v.types.record node type })
  | .forget node => (.forget node, { v with types := v.types.forget node })

/-- Serves requests in order. -/
def serveAll (v : TypeView) : List Request → List Event
  | [] => []
  | r :: rest =>
    let (e, v) := v.serve r
    e :: v.serveAll rest

end TypeView

end ChainLint
