import ChainLint.Dump.Field
/-!
# Reading trees

Reading a node claims its number, which no other node of the crate may have,
and files its type and what it denotes. Nodes are read in document order: a
node, its span, its callee, its arguments, its children.
-/

namespace ChainLint.Dump

/-- What the nodes read so far have filed. -/
structure Filed where
  claimed : List Int
  nodeTypes : Table Int Int
  denotations : Table Int Denotation

/-- Nothing filed. -/
def Filed.empty : Filed := ⟨[], Table.empty, Table.empty⟩

/-- A reading step: it files what it finds, or fails. -/
abbrev Reading (α : Type) := StateT Filed (Except LoadFault) α

/-- Fails with a fault of format. -/
def refuse {α : Type} (fault : DumpFault) : Reading α := throw (.malformed fault)

/-- Claims a node number. -/
def claim (id : Int) : Reading Unit := do
  if (← get).claimed.contains id then refuse (.duplicateNode id)
  else modify fun f => { f with claimed := id :: f.claimed }

/-- Files the type that a node has, if it has one. -/
def fileType (id : Int) (entries : List (Datum × Datum)) : Reading Unit :=
  match Datum.present? "ty" entries with
  | none => pure ()
  | some raw => do
    let ty ← whole s!"ty of node {id}" raw
    modify fun f => { f with nodeTypes := f.nodeTypes.insert id ty }

/-- Files what a node denotes, if the field is there. -/
def fileDenotation (id : Int) (entries : List (Datum × Datum)) : Reading Unit :=
  match Datum.field? "res" entries with
  | none => pure ()
  | some raw => do
    let use ← denotation raw
    modify fun f => { f with denotations := f.denotations.insert id use }

/-- The span of a node, if the field is there. -/
def spanOf (file : String) (entries : List (Datum × Datum)) : Except LoadFault (Option Span) :=
  match Datum.field? "span" entries with
  | none => pure none
  | some raw => span file raw

mutual

/-- Reads a node and all below it. -/
def node (file : String) (d : Datum) : Reading Expr :=
  match _h : d.core with
  | .map entries =>
    match Datum.field? "id" entries, Datum.field? "kind" entries with
    | some rawId, some kind => do
      let id ← whole "id" rawId
      claim id
      fileType id entries
      fileDenotation id entries
      let place ← spanOf file entries
      let callee ← calleeOf file entries
      let args ← listOf file "args" entries
      let children ← listOf file "children" entries
      let typeArgs ← items (Datum.field? "type_args" entries)
      pure {
        id, kind := kind.display, span := place, callee, args, children
        path := textField? "path" entries
        typeArgs := typeArgs.map Datum.display
        text := textField? "text" entries }
    | _, _ => refuse (.incompleteNode d)
  | _ => refuse (.notNode d)
termination_by sizeOf d
decreasing_by
  all_goals
    have hd := Datum.sizeOf_core d
    rw [_h] at hd
    simp only [Datum.map.sizeOf_spec] at hd
    omega

/-- Reads the callee of a node, if it has one. -/
def calleeOf (file : String) (entries : List (Datum × Datum)) : Reading (Option Expr) :=
  match _h : Datum.present? "callee" entries with
  | none => pure none
  | some raw => some <$> node file raw
termination_by sizeOf entries
decreasing_by exact Datum.sizeOf_present? _h

/-- Reads the nodes under a key. -/
def listOf (file key : String) (entries : List (Datum × Datum)) : Reading (List Expr) :=
  match _h : Datum.field? key entries with
  | none => pure []
  | some raw => nodesOf file raw
termination_by sizeOf entries
decreasing_by exact Datum.sizeOf_field? _h

/-- Reads the nodes that a field lists; a field that counts as false lists none. The items of
anything but a list are no nodes. -/
def nodesOf (file : String) (d : Datum) : Reading (List Expr) :=
  if d.isTruthy then
    match d with
    | .list ds | .tuple ds => nodes file ds
    | .again _ c => nodesOf file c
    | d =>
      match d.items? with
      | some (first :: _) => refuse (.notNode first)
      | some [] => pure []
      | none => throw (.misused .noItems)
  else pure []
termination_by sizeOf d

/-- Reads nodes in turn. -/
def nodes (file : String) (ds : List Datum) : Reading (List Expr) :=
  match ds with
  | [] => pure []
  | d :: r => do
    let e ← node file d
    return e :: (← nodes file r)
termination_by sizeOf ds

end

end ChainLint.Dump
