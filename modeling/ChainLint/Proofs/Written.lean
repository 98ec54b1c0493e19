import ChainLint.Dump.Crate
import Mathlib.Data.List.Nodup
/-!
# Crates written as documents

`document` spells a crate out: every field has its own key, numbers stand as
numbers and paths as lists, and spans and what a path denotes as mappings. A
field without a value is left out or written as null, as a choice says
(`Nulls`). Each kind of mapping is read back as what it was written for.
-/

namespace ChainLint

/-- Which fields without a value are written as null, and not left out: for types, declarations and
nodes of a number, and for what the path at a node denotes. -/
structure Nulls where
  type : Int → String → Bool
  decl : Int → String → Bool
  node : Int → String → Bool
  use : Int → String → Bool

/-- All fields without a value are written as null. -/
def Nulls.always : Nulls := ⟨fun _ _ => true, fun _ _ => true, fun _ _ => true, fun _ _ => true⟩

/-- All fields without a value are written as null, except what a path denotes. -/
def Nulls.exceptUses : Nulls := { Nulls.always with node := fun _ key => key ≠ "res" }

namespace Dump

/-! ## Fields -/

/-- What stands for a value that may be missing. -/
def written (null : Bool) : Option Datum → Option Datum
  | some d => some d
  | none => if null then some .null else none

/-- The entries for fields in order. -/
def writeFields (null : String → Bool) (fields : List (String × Option Datum)) : List (Datum × Datum) :=
  fields.filterMap fun f => (written (null f.1) f.2).map fun d => (.text f.1, d)

/-- The entries of a table whose keys are numbers. -/
def writeTable {α : Type} (write : α → Datum) (t : Table Int α) : List (Datum × Datum) :=
  t.entries.map fun e => (.int e.1, write e.2)

section
variable {null : String → Bool} {fields : List (String × Option Datum)} {key : String}

theorem field?_writeFields_cons (k : String) (o : Option Datum) (rest : List (String × Option Datum)) :
    Datum.field? key (writeFields null ((k, o) :: rest)) =
      if k = key then (written (null k) o).or (Datum.field? key (writeFields null rest))
      else Datum.field? key (writeFields null rest) := by
  unfold writeFields
  rw [List.filterMap_cons]
  cases written (null k) o with
  | none => simp
  | some d => rfl

theorem field?_writeFields_of_not_mem (h : key ∉ fields.map (·.1)) :
    Datum.field? key (writeFields null fields) = none := by
  induction fields with
  | nil => rfl
  | cons f rest ih =>
    obtain ⟨hf, hrest⟩ := not_or.1 (mt List.mem_cons.2 h)
    rw [field?_writeFields_cons, if_neg (Ne.symm hf), ih hrest]

/-- A field that is written once is found under its key. -/
theorem field?_writeFields (hn : (fields.map (·.1)).Nodup) {o : Option Datum} (h : (key, o) ∈ fields) :
    Datum.field? key (writeFields null fields) = written (null key) o := by
  induction fields with
  | nil => cases h
  | cons f rest ih =>
    obtain ⟨hf, hrest⟩ := List.nodup_cons.1 hn
    rw [field?_writeFields_cons]
    rcases List.mem_cons.1 h with rfl | h
    · rw [if_pos rfl, field?_writeFields_of_not_mem hf, Option.or_none]
    · have hk : f.1 ≠ key := by
        rintro rfl
        exact hf (List.mem_map.2 ⟨_, h, rfl⟩)
      rw [if_neg hk, ih hrest h]

theorem field?_writeFields_some (hn : (fields.map (·.1)).Nodup) {d : Datum} (h : (key, some d) ∈ fields) :
    Datum.field? key (writeFields null fields) = some d :=
  field?_writeFields hn h

/-- A null field counts as absent where this is asked for. -/
theorem present?_writeFields (hn : (fields.map (·.1)).Nodup) {o : Option Datum} (h : (key, o) ∈ fields)
    (hnull : o ≠ some .null) : Datum.present? key (writeFields null fields) = o := by
  rw [Datum.present?, field?_writeFields hn h]
  cases o with
  | none => cases null key <;> rfl
  | some d => cases d <;> first | rfl | exact absurd rfl hnull

theorem wholeField?_writeFields (what : String) (hn : (fields.map (·.1)).Nodup) {o : Option Int}
    (h : (key, o.map Datum.int) ∈ fields) : wholeField? what key (writeFields null fields) = .ok o := by
  rw [wholeField?, present?_writeFields hn h (by cases o <;> nofun)]
  cases o <;> rfl

theorem textField?_writeFields (hn : (fields.map (·.1)).Nodup) {o : Option String}
    (h : (key, o.map Datum.text) ∈ fields) : textField? key (writeFields null fields) = o := by
  rw [textField?, present?_writeFields hn h (by cases o <;> nofun)]
  cases o <;> rfl

theorem flag_writeFields (hn : (fields.map (·.1)).Nodup) {b : Bool} (h : (key, some (.bool b)) ∈ fields) :
    flag key (writeFields null fields) = b := by
  rw [flag, field?_writeFields_some hn h]
  rfl

end

/-- Reading back one by one what was written one by one. -/
theorem mapM_map_eq_ok {ε α β : Type} {read : β → Except ε α} {write : α → β} {l : List α}
    (h : ∀ a ∈ l, read (write a) = .ok a) : (l.map write).mapM read = .ok l := by
  induction l with
  | nil => rfl
  | cons a rest ih =>
    obtain ⟨ha, hrest⟩ := List.forall_mem_cons.1 h
    rw [List.map_cons, List.mapM_cons, ha, ih hrest]
    rfl

theorem mapM_whole (what : String) (ns : List Int) : (ns.map Datum.int).mapM (whole what) = .ok ns :=
  mapM_map_eq_ok fun _ _ => rfl

theorem items_list (ds : List Datum) : items (some (.list ds)) = .ok ds := by
  cases ds <;> rfl

/-! ## What a path denotes -/

/-- The fields of what a path denotes. -/
def useFields (use : Denotation) : List (String × Option Datum) :=
  [("def", use.decl.map .int), ("local", some (.bool use.isLocal)), ("self_ty", use.selfType.map .int),
   ("generic_args", some (.list (use.genericArgs.map .int)))]

/-- What the path at a node denotes, as a mapping. -/
def useDatum (nulls : Nulls) (node : Int) (use : Denotation) : Datum :=
  .map (writeFields (nulls.use node) (useFields use))

theorem denotation_useDatum (nulls : Nulls) (node : Int) (use : Denotation) :
    denotation (useDatum nulls node use) = .ok use := by
  have keys : ((useFields use).map (·.1)).Nodup := by simp [useFields]
  have args : Datum.field? "generic_args" (writeFields (nulls.use node) (useFields use)) =
      some (.list (use.genericArgs.map .int)) := field?_writeFields_some keys (by simp [useFields])
  simp only [ denotation, useDatum, Datum.core]
  rw [wholeField?_writeFields (o := use.decl) _ keys (by simp [useFields]),
    wholeField?_writeFields (o := use.selfType) _ keys (by simp [useFields]), args, items_list,
    flag_writeFields (b := use.isLocal) keys (by simp [useFields])]
  show (use.genericArgs.map Datum.int).mapM (whole "res.generic_args") >>= _ = _
  rw [mapM_whole]
  rfl

/-! ## Types and declarations -/

/-- The fields of a type. -/
def typeFields (t : TypeEntry) : List (String × Option Datum) :=
  [("kind", some (.text t.kind)), ("name", t.name.map .text), ("inner", t.inner.map .int),
   ("mutable", some (.bool t.isMutable))]

/-- A type as a mapping. -/
def typeDatum (nulls : Nulls) (t : TypeEntry) : Datum := .map (writeFields (nulls.type t.id) (typeFields t))

theorem typeEntry_typeDatum (origin : String) (nulls : Nulls) (t : TypeEntry) :
    typeEntry origin t.id (typeDatum nulls t) = .ok t := by
  have keys : ((typeFields t).map (·.1)).Nodup := by simp [typeFields]
  have kind : Datum.field? "kind" (writeFields (nulls.type t.id) (typeFields t)) = some (.text t.kind) :=
    field?_writeFields_some keys (by simp [typeFields])
  simp only [typeEntry, typeDatum, mapping, Datum.core, bind, Except.bind, kind]
  rw [wholeField?_writeFields (o := t.inner) _ keys (by simp [typeFields]),
    textField?_writeFields (o := t.name) keys (by simp [typeFields]),
    flag_writeFields (b := t.isMutable) keys (by simp [typeFields])]
  rfl

/-- The fields of a declaration. -/
def declFields (d : Declaration) : List (String × Option Datum) :=
  [("path", some (.list (d.path.map .text))), ("kind", some (.text d.kind)), ("target", d.target.map .int),
   ("has_default", some (.bool d.hasDefault)), ("impls", some (.map (writeTable .int d.impls)))]

/-- A declaration as a mapping. -/
def declDatum (nulls : Nulls) (d : Declaration) : Datum := .map (writeFields (nulls.decl d.id) (declFields d))

theorem splitPath_list {path : List String} (hp : path ≠ [])
    (hs : ∀ segment ∈ path, segment ≠ "" ∧ Text.trim segment = segment) :
    splitPath (.list (path.map .text)) = .ok path := by
  have trimmed : (path.map Datum.text).map (fun d => Text.trim d.display) = path := by
    rw [List.map_map]
    exact (List.map_congr_left fun segment h => (hs segment h).2).trans (List.map_id path)
  have full : "" ∉ path := fun h => (hs "" h).1 rfl
  simp [splitPath, rawSegments?, trimmed, hp, full]

theorem mapM_implEntry (t : Table Int Int) : (writeTable .int t).mapM implEntry = .ok t.entries :=
  mapM_map_eq_ok fun _ _ => rfl

theorem declEntry_declDatum (origin : String) (nulls : Nulls) (d : Declaration) (hp : d.path ≠ [])
    (hs : ∀ segment ∈ d.path, segment ≠ "" ∧ Text.trim segment = segment) (hi : Table.ofList d.impls.entries = d.impls) :
    declEntry origin d.id (declDatum nulls d) = .ok d := by
  have keys : ((declFields d).map (·.1)).Nodup := by simp [declFields]
  have path : Datum.field? "path" (writeFields (nulls.decl d.id) (declFields d)) =
      some (.list (d.path.map .text)) := field?_writeFields_some keys (by simp [declFields])
  have kind : Datum.field? "kind" (writeFields (nulls.decl d.id) (declFields d)) = some (.text d.kind) :=
    field?_writeFields_some keys (by simp [declFields])
  have impls : Datum.field? "impls" (writeFields (nulls.decl d.id) (declFields d)) =
      some (.map (writeTable .int d.impls)) := field?_writeFields_some keys (by simp [declFields])
  simp only [declEntry, declDatum, mapping, Datum.core, bind, Except.bind, path, kind, impls, mapM_implEntry,
    splitPath_list hp hs, liftFault]
  rw [wholeField?_writeFields (o := d.target) _ keys (by simp [declFields]),
    flag_writeFields (b := d.hasDefault) keys (by simp [declFields])]
  simp only [hi]
  rfl

/-! ## Tables -/

theorem numbered_writeTable {α : Type} {what : String} {read : Int → Datum → Except LoadFault α}
    {write : α → Datum} {t : Table Int α} (hr : ∀ e ∈ t.entries, read e.1 (write e.2) = .ok e.2) :
    numbered what read (writeTable write t) = .ok (Table.ofList t.entries) := by
  have pairs : (writeTable write t).mapM (fun e => do
      let id ← whole what e.1
      return (id, ← read id e.2)) = .ok t.entries :=
    mapM_map_eq_ok fun e he => by
      show (do return (e.1, ← read e.1 (write e.2))) = _
      rw [hr e he]
      rfl
  rw [numbered, pairs]
  rfl

/-! ## Trees -/

/-- A span as a mapping of five fields. -/
def spanDatum (s : Span) : Datum :=
  .map [(.text "file", .text s.file), (.text "line_start", .int s.lineStart), (.text "col_start", .int s.colStart),
    (.text "line_end", .int s.lineEnd), (.text "col_end", .int s.colEnd)]

theorem span_spanDatum (file : String) (s : Span) : span file (spanDatum s) = .ok (some s) := rfl

mutual

/-- A node with all below it as a mapping. Its type and what it denotes stand in the tables of the
crate. -/
def nodeDatum (c : Crate) (nulls : Nulls) : Expr → Datum
  | ⟨id, kind, span, callee, args, children, path, typeArgs, text⟩ =>
    .map (writeFields (nulls.node id)
      [("id", some (.int id)), ("kind", some (.text kind)), ("ty", (c.types.nodeTypes.get? id).map .int),
       ("res", (c.denotations.get? id).map (useDatum nulls id)), ("span", span.map spanDatum),
       ("callee", calleeDatum c nulls callee), ("args", some (.list (nodesDatum c nulls args))),
       ("children", some (.list (nodesDatum c nulls children))), ("path", path.map .text),
       ("type_args", some (.list (typeArgs.map .text))), ("text", text.map .text)])

/-- The callee of a node as a mapping, if there is one. -/
def calleeDatum (c : Crate) (nulls : Nulls) : Option Expr → Option Datum
  | none => none
  | some e => some (nodeDatum c nulls e)

/-- Nodes as mappings. -/
def nodesDatum (c : Crate) (nulls : Nulls) : List Expr → List Datum
  | [] => []
  | e :: r => nodeDatum c nulls e :: nodesDatum c nulls r

end

/-- The fields of a node. -/
def nodeFields (c : Crate) (nulls : Nulls) (e : Expr) : List (String × Option Datum) :=
  [("id", some (.int e.id)), ("kind", some (.text e.kind)), ("ty", (c.types.nodeTypes.get? e.id).map .int),
   ("res", (c.denotations.get? e.id).map (useDatum nulls e.id)), ("span", e.span.map spanDatum),
   ("callee", e.callee.map (nodeDatum c nulls)), ("args", some (.list (e.args.map (nodeDatum c nulls)))),
   ("children", some (.list (e.children.map (nodeDatum c nulls)))), ("path", e.path.map .text),
   ("type_args", some (.list (e.typeArgs.map .text))), ("text", e.text.map .text)]

/-- The entries of the mapping of a node. -/
def nodeEntries (c : Crate) (nulls : Nulls) (e : Expr) : List (Datum × Datum) :=
  writeFields (nulls.node e.id) (nodeFields c nulls e)

section
variable (c : Crate) (nulls : Nulls)

theorem calleeDatum_eq (callee : Option Expr) : calleeDatum c nulls callee = callee.map (nodeDatum c nulls) := by
  cases callee <;> rfl

theorem nodesDatum_eq (es : List Expr) : nodesDatum c nulls es = es.map (nodeDatum c nulls) := by
  induction es with
  | nil => rfl
  | cons e rest ih => rw [nodesDatum, ih, List.map_cons]

theorem nodeDatum_eq (e : Expr) : nodeDatum c nulls e = .map (nodeEntries c nulls e) := by
  obtain ⟨id, kind, span, callee, args, children, path, typeArgs, text⟩ := e
  rw [nodeDatum, calleeDatum_eq, nodesDatum_eq, nodesDatum_eq]
  rfl

/-- What is found in the mapping of a node. -/
structure Spells (e : Expr) (entries : List (Datum × Datum)) : Prop where
  id : Datum.field? "id" entries = some (.int e.id)
  kind : Datum.field? "kind" entries = some (.text e.kind)
  ty : Datum.present? "ty" entries = (c.types.nodeTypes.get? e.id).map .int
  res : Datum.field? "res" entries = written (nulls.node e.id "res") ((c.denotations.get? e.id).map (useDatum nulls e.id))
  span : Datum.field? "span" entries = written (nulls.node e.id "span") (e.span.map spanDatum)
  callee : Datum.present? "callee" entries = e.callee.map (nodeDatum c nulls)
  args : Datum.field? "args" entries = some (.list (e.args.map (nodeDatum c nulls)))
  children : Datum.field? "children" entries = some (.list (e.children.map (nodeDatum c nulls)))
  path : textField? "path" entries = e.path
  typeArgs : Datum.field? "type_args" entries = some (.list (e.typeArgs.map .text))
  text : textField? "text" entries = e.text

theorem spells_nodeEntries (e : Expr) : Spells c nulls e (nodeEntries c nulls e) := by
  have keys : ((nodeFields c nulls e).map (·.1)).Nodup := by simp [nodeFields]
  constructor
  case id | kind | args | children | typeArgs => exact field?_writeFields_some keys (by simp [nodeFields])
  case ty | callee => exact present?_writeFields keys (by simp [nodeFields]) (by simp [nodeDatum_eq])
  case res | span => exact field?_writeFields keys (by simp [nodeFields])
  case path | text => exact textField?_writeFields keys (by simp [nodeFields])

end

/-! ## Crates -/

/-- A unit as a mapping. -/
def unitDatum (c : Crate) (nulls : Nulls) (u : CodeUnit) : Datum :=
  .map [(.text "name", .text u.name), (.text "file", .text u.file), (.text "body", nodeDatum c nulls u.body)]

/-- The entries of the document of a crate. -/
def documentEntries (c : Crate) (nulls : Nulls) : List (Datum × Datum) :=
  [(.text "crate", .text c.name), (.text "types", .map (writeTable (typeDatum nulls) c.types.types)),
   (.text "defs", .map (writeTable (declDatum nulls) c.declarations)),
   (.text "units", .list (c.units.map (unitDatum c nulls)))]

/-- The document that spells a crate out. -/
def document (c : Crate) (nulls : Nulls) : Datum := .map (documentEntries c nulls)

end Dump

end ChainLint
