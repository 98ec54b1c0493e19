import ChainLint.Yaml.Scanner
import ChainLint.Yaml.Tag
/-!
# The nodes of YAML documents

A document is a tree of nodes. An alias of a node that is complete stands for a
copy of it; an alias of a collection inside that very collection stays, by
name. A stream holds any number of documents, each begun by a mark except
perhaps the first.
-/

namespace ChainLint.Yaml

/-- A node. -/
inductive Node
  | scalar (tag : Tag) (text : String)
  | list (anchor : Option String) (tag : Tag) (items : List Node)
  | map (anchor : Option String) (tag : Tag) (entries : List (Node × Node))
  /-- A collection inside itself. -/
  | aliasOf (name : String)
deriving Repr, Inhabited

/-- A document: its root, and the nodes that have names. -/
structure Document where
  root : Node
  anchors : List (String × Node)

/-- What the reading of nodes knows. -/
structure Reader where
  tokens : List Token
  /-- The fault that ended the tokens. -/
  fault : Fault
  handles : List (String × String) := []
  /-- The complete nodes that have names. -/
  anchors : List (String × Node) := []
  /-- The names of collections that are being read. -/
  opened : List String := []

/-- Reading nodes from tokens. -/
abbrev Reading := StateT Reader (Except Fault)

namespace Reading

/-- The token that comes next. -/
def peek : Reading Token := do
  let r ← get
  match r.tokens with
  | t :: _ => pure t
  | [] => throw r.fault

/-- Passes over a token. -/
def skip : Reading Unit := modify fun r => { r with tokens := r.tokens.drop 1 }

/-- Passes over a token that has to come next. -/
def expect (t : Token) : Reading Unit := do
  if (← peek) = t then skip else throw .malformed

/-- Whether one of some tokens comes next. -/
def isNext (ts : List Token) : Reading Bool := do return ts.contains (← peek)

/-- Passes over a token if it comes next, and says whether it did. -/
def skipIf (t : Token) : Reading Bool := do
  if (← peek) = t then
    skip
    return true
  else return false

/-! ## Properties of nodes -/

/-- The handles that need no directive. -/
def standardHandles : List (String × String) := [("!", "!"), ("!!", Tag.standardPrefix)]

/-- The URI of a tag. -/
def uriOf (handle : Option String) (suffix : String) : Reading String := do
  match handle with
  | none => pure suffix
  | some h =>
    match (← get).handles.lookup h with
    | some leading => pure (leading ++ suffix)
    | none => throw .malformed

/-- The anchor and the tag before a node, in either order. -/
def properties : Reading (Option String × Option String) := do
  match ← peek with
  | .anchor a =>
    skip
    match ← peek with
    | .tag h s =>
      skip
      return (some a, some (← uriOf h s))
    | _ => return (some a, none)
  | .tag h s =>
    skip
    let uri ← uriOf h s
    match ← peek with
    | .anchor a =>
      skip
      return (some a, some uri)
    | _ => return (none, some uri)
  | _ => return (none, none)

/-- The tag of a scalar. An exclamation mark alone asks for the tag by form. -/
def scalarTag (uri : Option String) (text : String) (isPlain : Bool) : Tag :=
  match uri with
  | none => if isPlain then Tag.ofPlain text else .text
  | some "!" => Tag.ofPlain text
  | some u => Tag.ofUri u

/-- The tag of a collection. -/
def collectionTag (uri : Option String) (standard : Tag) : Tag :=
  match uri with
  | none | some "!" => standard
  | some u => Tag.ofUri u

/-- The scalar that stands where nothing is written. -/
def emptyNode : Node := .scalar .null ""

/-- Checks that a name is new. -/
def checkNew (anchor : Option String) : Reading Unit := do
  let r ← get
  match anchor with
  | some a =>
    if r.opened.contains a || (r.anchors.lookup a).isSome then throw .malformed
  | none => pure ()

/-- Keeps a complete node under its name. -/
def keep (anchor : Option String) (n : Node) : Reading Node := do
  match anchor with
  | some a => modify fun r => { r with anchors := (a, n) :: r.anchors }
  | none => pure ()
  return n

/-- Marks a name as that of a collection being read. -/
def enter (anchor : Option String) : Reading Unit :=
  modify fun r => { r with opened := anchor.toList ++ r.opened }

/-- Ends the collection being read and keeps it. -/
def leave (anchor : Option String) (n : Node) : Reading Node := do
  modify fun r => { r with opened := r.opened.drop anchor.toList.length }
  keep anchor n

/-- The node of an alias. -/
def aliased (name : String) : Reading Node := do
  let r ← get
  match r.anchors.lookup name with
  | some n => pure n
  | none => if r.opened.contains name then pure (.aliasOf name) else throw .malformed

/-! ## Nodes -/

mutual

/-- A node; `block` admits collections by indentation, `bare` lists without indentation of their
own. -/
def node : Nat → Bool → Bool → Reading Node
  | 0, _, _ => throw .malformed
  | fuel + 1, block, bare => do
    if let .aliasOf name ← peek then
      skip
      return ← aliased name
    let (anchor, uri) ← properties
    checkNew anchor
    let list := fun (items : Reading (List Node)) => do
      enter anchor
      leave anchor (.list anchor (collectionTag uri .list) (← items))
    let map := fun (entries : Reading (List (Node × Node))) => do
      enter anchor
      leave anchor (.map anchor (collectionTag uri .map) (← entries))
    match ← peek with
    | .blockEntry => if bare then list (bareItems fuel) else absent anchor uri
    | .scalar text isPlain =>
      skip
      keep anchor (.scalar (scalarTag uri text isPlain) text)
    | .flowSequenceStart =>
      skip
      list (flowItems fuel true)
    | .flowMappingStart =>
      skip
      map (flowEntries fuel true)
    | .blockSequenceStart =>
      if block then
        skip
        list (blockItems fuel)
      else absent anchor uri
    | .blockMappingStart =>
      if block then
        skip
        map (blockEntries fuel)
      else absent anchor uri
    | _ => absent anchor uri

/-- A node of which only the anchor or the tag is written. -/
def absent (anchor uri : Option String) : Reading Node :=
  if anchor.isSome || uri.isSome then keep anchor (.scalar (scalarTag uri "" true) "")
  else throw .malformed

/-- A node, unless one of some tokens comes next, which means an empty one. -/
def nodeUnless : Nat → List Token → Bool → Bool → Reading Node
  | 0, _, _, _ => throw .malformed
  | fuel + 1, ends, block, bare => do
    if ← isNext ends then return emptyNode else node fuel block bare

/-- The value after a key: nothing is written unless a colon comes next. -/
def valueUnless : Nat → List Token → Bool → Reading Node
  | 0, _, _ => throw .malformed
  | fuel + 1, ends, block => do
    if ← skipIf .value then nodeUnless fuel ends block block else return emptyNode

/-- The items of a list by indentation. -/
def blockItems : Nat → Reading (List Node)
  | 0 => throw .malformed
  | fuel + 1 => do
    if ← skipIf .blockEntry then
      let n ← nodeUnless fuel [.blockEntry, .blockEnd] true false
      return n :: (← blockItems fuel)
    else
      expect .blockEnd
      return []

/-- The items of a list at the indentation of the mapping around it. -/
def bareItems : Nat → Reading (List Node)
  | 0 => throw .malformed
  | fuel + 1 => do
    if ← skipIf .blockEntry then
      let n ← nodeUnless fuel [.blockEntry, .key, .value, .blockEnd] true false
      return n :: (← bareItems fuel)
    else return []

/-- The entries of a mapping by indentation. -/
def blockEntries : Nat → Reading (List (Node × Node))
  | 0 => throw .malformed
  | fuel + 1 => do
    if ← skipIf .key then
      let k ← nodeUnless fuel [.key, .value, .blockEnd] true true
      let v ← valueUnless fuel [.key, .value, .blockEnd] true
      return (k, v) :: (← blockEntries fuel)
    else
      expect .blockEnd
      return []

/-- The items of a list in brackets; an item with a key is a mapping of one entry. -/
def flowItems : Nat → Bool → Reading (List Node)
  | 0, _ => throw .malformed
  | fuel + 1, isFirst => do
    if ← skipIf .flowSequenceEnd then return []
    if !isFirst then expect .flowEntry
    if ← skipIf .key then
      let k ← nodeUnless fuel [.value, .flowEntry, .flowSequenceEnd] false false
      let v ← valueUnless fuel [.flowEntry, .flowSequenceEnd] false
      return .map none .map [(k, v)] :: (← flowItems fuel false)
    if ← skipIf .flowSequenceEnd then return []
    let n ← node fuel false false
    return n :: (← flowItems fuel false)

/-- The entries of a mapping in braces; one without a key mark is a key alone. -/
def flowEntries : Nat → Bool → Reading (List (Node × Node))
  | 0, _ => throw .malformed
  | fuel + 1, isFirst => do
    if ← skipIf .flowMappingEnd then return []
    if !isFirst then expect .flowEntry
    if ← skipIf .key then
      let k ← nodeUnless fuel [.value, .flowEntry, .flowMappingEnd] false false
      let v ← valueUnless fuel [.flowEntry, .flowMappingEnd] false
      return (k, v) :: (← flowEntries fuel false)
    if ← skipIf .flowMappingEnd then return []
    let k ← node fuel false false
    return (k, emptyNode) :: (← flowEntries fuel false)

end

/-! ## Documents -/

/-- Passes over directives, and gives the handles that they declare. -/
def directives : Nat → Bool → List (String × String) → Reading (List (String × String))
  | 0, _, _ => throw .malformed
  | fuel + 1, hasVersion, handles => do
    match ← peek with
    | .directive d =>
      skip
      match d with
      | .version major =>
        if hasVersion || major ≠ 1 then throw .malformed
        directives fuel true handles
      | .tag handle leading =>
        if (handles.lookup handle).isSome then throw .malformed
        directives fuel hasVersion ((handle, leading) :: handles)
      | .other => directives fuel hasVersion handles
    | _ => return handles

/-- Passes over marks that end documents. -/
def skipEnds : Nat → Reading Unit
  | 0 => throw .malformed
  | fuel + 1 => do if ← skipIf .documentEnd then skipEnds fuel

/-- Begins a document with declared handles. -/
def begin (handles : List (String × String)) : Reading Unit :=
  modify fun r => { r with handles := handles ++ standardHandles, anchors := [], opened := [] }

/-- How deep nodes may nest, and more than any stream needs. -/
def depth : Reading Nat := do return 4 * (← get).tokens.length + 8

/-- Ends a document, with a mark or without. -/
def finish (root : Node) : Reading (Option Document) := do
  let anchors := (← get).anchors
  let _ ← skipIf .documentEnd
  return some ⟨root, anchors⟩

/-- Whether a directive comes next. -/
def isDirective : Reading Bool := do
  match ← peek with
  | .directive _ => return true
  | _ => return false

/-- A document begun by a mark; none at the end of the stream. -/
def marked : Reading (Option Document) := do
  let fuel ← depth
  skipEnds fuel
  if ← isNext [.streamEnd] then return none
  let handles ← directives fuel false []
  expect .documentStart
  begin handles
  if (← isNext [.documentStart, .documentEnd, .streamEnd]) || (← isDirective) then finish emptyNode
  else finish (← node fuel true false)

/-- The first document, which may have no mark; none if the stream is empty. -/
def first : Reading (Option Document) := do
  if (← isNext [.documentStart, .streamEnd]) || (← isDirective) then marked
  else
    begin []
    finish (← node (← depth) true false)

/-- Whether the stream ends here. -/
def isAtEnd : Reading Bool := do
  skipEnds (← depth)
  isNext [.streamEnd]

end Reading

namespace TokenStream

/-- The reader of a stream from its start. -/
def reader (s : TokenStream) : Reader := { tokens := s.tokens, fault := s.fault.getD .malformed }

/-- The document of a stream that holds at most one. -/
def single? (s : TokenStream) : Except Fault (Option Document) := do
  let (d, r) ← Reading.first.run s.reader
  match d with
  | none => return none
  | some d =>
    let (isLast, _) ← Reading.isAtEnd.run r
    if isLast then return some d else throw .malformed

end TokenStream

end ChainLint.Yaml
