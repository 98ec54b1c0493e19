import ChainLint.Yaml.Node
import ChainLint.Yaml.ScalarValue
/-!
# From nodes to values

Values are made level by level: first the root, then what it holds, and so on.
Of several faults the first one in that order is reported. So nodes are turned
into drafts, which hold the values of scalars and mark faults; drafts are
searched for the first fault; and a draft without faults has a value.

The entries that a mapping merges from others come before its own, so its own
prevail, and among merged mappings the first listed prevails.
-/

namespace ChainLint.Yaml

/-- A value in the making. -/
inductive Draft
  | value (d : Datum)
  /-- A node that has no value. -/
  | faulty (fault : Fault)
  | list (anchor : Option String) (items : List Draft)
  /-- A list of pairs, up to an item that is no pair. -/
  | pairs (anchor : Option String) (items : List (Draft × Draft)) (isWhole : Bool)
  | set (anchor : Option String) (entries : List (Draft × Draft))
  | map (anchor : Option String) (entries : List (Draft × Draft))
  /-- A collection that cannot be filled. -/
  | hollow
  /-- A collection inside itself. -/
  | aliasOf (name : String)
deriving Inhabited

/-! ## Drafts of nodes -/

mutual

/-- The text of a node where a scalar is needed: a mapping gives that of its default key. -/
def Node.scalarText : Node → Option String
  | .scalar _ text => some text
  | .map _ _ entries => defaultText entries
  | _ => none

/-- The text of the value under the default key. -/
def defaultText : List (Node × Node) → Option String
  | [] => none
  | (k, v) :: r =>
    match k with
    | .scalar .default _ => v.scalarText
    | _ => defaultText r

end

/-- The draft of a mapping under a tag for scalars. -/
def mappingAsScalar (tag : Tag) (entries : List (Node × Node)) : Draft :=
  match defaultText entries with
  | none => .faulty .malformed
  | some text =>
    if tag = .time then .faulty .mappingAsTime
    else
      match scalarValue tag text with
      | .ok d => .value d
      | .error fault => .faulty fault

/-- The draft of a scalar. -/
def scalarDraft (tag : Tag) (text : String) : Draft :=
  match tag with
  | .list | .map | .set | .ordered | .pairs => .hollow
  | _ =>
    match scalarValue tag text with
    | .ok d => .value d
    | .error fault => .faulty fault

/-- Merged entries before own ones. -/
structure Merge where
  merged : List (Draft × Draft)
  own : List (Draft × Draft)

/-- All entries, the merged ones first. -/
def Merge.entries (m : Merge) : List (Draft × Draft) := m.merged ++ m.own

mutual

/-- The draft of a node. -/
def Node.draft : Node → Draft
  | .scalar tag text => scalarDraft tag text
  | .aliasOf name => .aliasOf name
  | .list anchor tag items =>
    match tag with
    | .list => .list anchor (drafts items)
    | .ordered | .pairs =>
      let (pairs, isWhole) := pairDrafts items
      .pairs anchor pairs isWhole
    | .map | .set => .hollow
    | _ => .faulty .malformed
  | .map anchor tag entries =>
    match tag with
    | .map =>
      match mergeOf entries with
      | some m => .map anchor m.entries
      | none => .hollow
    | .set =>
      match mergeOf entries with
      | some m => .set anchor m.entries
      | none => .hollow
    | .list | .ordered | .pairs => .hollow
    | .other _ | .merge | .default => .faulty .malformed
    | _ => mappingAsScalar tag entries

/-- The drafts of nodes. -/
def drafts : List Node → List Draft
  | [] => []
  | n :: r => n.draft :: drafts r

/-- The pairs that mappings of one entry make, up to another node. -/
def pairDrafts : List Node → List (Draft × Draft) × Bool
  | [] => ([], true)
  | n :: r =>
    match n with
    | .map _ _ [(k, v)] =>
      let (rest, isWhole) := pairDrafts r
      ((k.draft, v.draft) :: rest, isWhole)
    | _ => ([], false)

/-- The entries of a mapping with those that it merges; none if what it merges is no mapping. The
default key counts as a text here. -/
def mergeOf : List (Node × Node) → Option Merge
  | [] => some ⟨[], []⟩
  | (k, v) :: r =>
    match k with
    | .scalar .merge _ => do
      let source ← v.mergeSource
      let m ← mergeOf r
      return { m with merged := source ++ m.merged }
    | .scalar .default text => do
      let m ← mergeOf r
      return { m with own := (.value (.text text), v.draft) :: m.own }
    | k => do
      let m ← mergeOf r
      return { m with own := (k.draft, v.draft) :: m.own }

/-- The entries that a node gives where it is merged: a mapping its own, a list those of its items,
the last item first. A mapping merged into itself adds nothing. -/
def Node.mergeSource : Node → Option (List (Draft × Draft))
  | .map _ _ entries => (mergeOf entries).map Merge.entries
  | .list _ _ items => mergeSources items
  | .aliasOf _ => some []
  | .scalar .. => none

/-- The entries of mappings, the last one first. -/
def mergeSources : List Node → Option (List (Draft × Draft))
  | [] => some []
  | n :: r => do
    let own ← match n with
      | .map _ _ entries => (mergeOf entries).map Merge.entries
      | .aliasOf _ => some []
      | _ => none
    return (← mergeSources r) ++ own

end

/-! ## The first fault -/

namespace Draft

/-- The fault of a draft that has no value at all. -/
def check : Draft → Except Fault Unit
  | .faulty fault => .error fault
  | _ => .ok ()

/-- Whether the value of a draft may be a key. -/
def mayBeKey : Draft → Bool
  | .value _ => true
  | _ => false

/-- Checks an entry of a mapping. -/
def checkEntry (e : Draft × Draft) : Except Fault Unit := do
  e.1.check
  if !e.1.mayBeKey then throw .malformed
  e.2.check

/-- Checks what a collection holds and gives it, for the next level. -/
def level : Draft → Except Fault (List Draft)
  | .list _ items => do
    items.forM check
    return items
  | .pairs _ items isWhole => do
    items.forM fun e => do
      e.1.check
      e.2.check
    if isWhole then return items.flatMap fun e => [e.1, e.2] else throw .malformed
  | .set _ entries | .map _ entries => do
    entries.forM checkEntry
    return entries.map (·.2)
  | .hollow => throw .malformed
  | _ => return []

/-- Checks levels from the given one down, as many as `fuel` at most. -/
def checkLevels : Nat → List Draft → Except Fault Unit
  | 0, _ => .ok ()
  | fuel + 1, ds => do
    if ds.isEmpty then return ()
    checkLevels fuel (← ds.mapM level).flatten

mutual

/-- How many levels a draft has. -/
def height : Draft → Nat
  | .list _ items => heights items + 1
  | .pairs _ items _ => entryHeights items + 1
  | .set _ entries | .map _ entries => entryHeights entries + 1
  | _ => 1

/-- The most levels among drafts. -/
def heights : List Draft → Nat
  | [] => 0
  | d :: r => max d.height (heights r)

/-- The most levels among entries. -/
def entryHeights : List (Draft × Draft) → Nat
  | [] => 0
  | (k, v) :: r => max (max k.height v.height) (entryHeights r)

end

/-- Finds the first fault. -/
def checkAll (d : Draft) : Except Fault Unit := do
  d.check
  checkLevels (d.height + 1) [d]

/-! ## The value -/

/-- How often the content of a collection inside itself is written out. -/
def unrolling : Nat := 3

mutual

/-- The value of a draft inside collections of the given names, the innermost first. -/
def datum (anchors : List (String × Draft)) (unroll : Nat) (path : List (Option String))
    (d : Draft) : Datum :=
  match d with
  | .value d => d
  | .faulty _ | .hollow => .null
  | .list anchor items => .list (data anchors unroll (anchor :: path) items)
  | .pairs anchor items _ =>
    .list ((entryData anchors unroll (none :: anchor :: path) items).map fun e =>
      .tuple [e.1, e.2])
  | .set anchor entries =>
    Datum.setOf ((entryData anchors unroll (anchor :: path) entries).map (·.1))
  | .map anchor entries => Datum.mapOf (entryData anchors unroll (anchor :: path) entries)
  | .aliasOf name =>
    match unroll, anchors.lookup name with
    | 0, _ | _, none => .null
    | unroll + 1, some target =>
      let content := datum anchors unroll path target
      match path.idxOf? (some name) with
      | some i => .again (i + 1) content
      | none => content
termination_by (unroll, sizeOf d)

/-- The values of drafts. -/
def data (anchors : List (String × Draft)) (unroll : Nat) (path : List (Option String))
    (ds : List Draft) : List Datum :=
  match ds with
  | [] => []
  | d :: r => datum anchors unroll path d :: data anchors unroll path r
termination_by (unroll, sizeOf ds)

/-- The values of entries. -/
def entryData (anchors : List (String × Draft)) (unroll : Nat) (path : List (Option String))
    (es : List (Draft × Draft)) : List (Datum × Datum) :=
  match es with
  | [] => []
  | (k, v) :: r =>
    (datum anchors unroll path k, datum anchors unroll path v) :: entryData anchors unroll path r
termination_by (unroll, sizeOf es)

end

end Draft

/-- The value of a document. -/
def Document.value (d : Document) : Except Fault Datum := do
  let draft := d.root.draft
  draft.checkAll
  return draft.datum (d.anchors.map fun e => (e.1, e.2.draft)) Draft.unrolling []

/-- The value of a text that holds one document at most. -/
def load (text : String) : Except Fault Datum := do
  match ← (TokenStream.ofText text).single? with
  | none => return .null
  | some d => d.value

/-- The values of the documents of a stream, up to a fault. -/
def loadFrom : Nat → Reader → Except Fault (List Datum)
  | 0, _ => .ok []
  | fuel + 1, r => do
    let (d, r) ← Reading.marked.run r
    match d with
    | none => return []
    | some d =>
      let v ← d.value
      return v :: (← loadFrom fuel r)

/-- The values of all documents of a text. -/
def loadAll (text : String) : Except Fault (List Datum) := do
  let s := TokenStream.ofText text
  let (d, r) ← Reading.first.run s.reader
  match d with
  | none => return []
  | some d =>
    let v ← d.value
    return v :: (← loadFrom (s.tokens.length + 1) r)

end ChainLint.Yaml
