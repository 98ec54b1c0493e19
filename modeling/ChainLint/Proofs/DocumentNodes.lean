import ChainLint.Proofs.SingleUnit
/-!
# The nodes of a document

`nodesIn` lists the nodes of a tree as they stand in a document, before any of
them is read. Reading a tree goes through them in this order: each node claims
the whole number that its field gives, and files its type and what it denotes
under this number (`node_records`). What reading checks apart from the numbers
is kept beside it (`Sound`).
-/

namespace ChainLint

/-! ## Where nodes stand -/

namespace Datum

theorem items?_ne_nil {d : Datum} (h : d.isTruthy = true) : d.items? ≠ some [] := by
  cases d with
  | text s =>
    have said : s ≠ "" := by simpa [isTruthy] using h
    simpa [items?] using said
  | again up c => exact items?_ne_nil (d := c) h
  | list items | tuple items | set items => simpa [isTruthy, items?] using h
  | map entries => simpa [isTruthy, items?] using h
  | bytes b => simpa [isTruthy, items?] using h
  | _ => simp [items?]

/-- The items of a list. A value that counts as false lists nothing, and any other is no listing. -/
def listing? : Datum → Option (List Datum)
  | .list ds | .tuple ds => some ds
  | .again _ c => listing? c
  | d => if d.isTruthy then none else some []

theorem listing?_of_list {d : Datum} {ds : List Datum} (h : d.core = .list ds) : d.listing? = some ds := by
  cases d with
  | list items =>
    cases h
    rfl
  | again up c =>
    cases (h : c = .list ds)
    rfl
  | _ => cases h

theorem listing?_of_false {d : Datum} (h : d.isTruthy = false) : d.listing? = some [] := by
  cases d with
  | list items | tuple items =>
    have empty : items = [] := by simpa [isTruthy] using h
    rw [listing?, empty]
  | again up c => exact listing?_of_false (d := c) h
  | _ => simp [listing?, h]

theorem sizeOf_listing? {d item : Datum} {ds : List Datum} (h : d.listing? = some ds) (hm : item ∈ ds) :
    sizeOf item < sizeOf d := by
  cases d with
  | list items | tuple items =>
    cases h
    have := List.sizeOf_lt_of_mem hm
    simp
    omega
  | again up c =>
    have := sizeOf_listing? (d := c) h hm
    simp
    omega
  | _ =>
    simp only [listing?] at h
    split at h
    · cases h
    · cases h
      cases hm

end Datum

namespace Dump

/-- The values that a field lists for nodes. -/
def listed? (key : String) (entries : List (Datum × Datum)) : Option (List Datum) :=
  match Datum.field? key entries with
  | none => some []
  | some raw => raw.listing?

/-- The values that a field lists, if it is a listing. -/
def listed (key : String) (entries : List (Datum × Datum)) : List Datum := (listed? key entries).getD []

/-- The values right below a node, in document order: its callee, its arguments, its children. -/
def partsOf (entries : List (Datum × Datum)) : List Datum :=
  (Datum.present? "callee" entries).toList ++ listed "args" entries ++ listed "children" entries

theorem sizeOf_listed {key : String} {entries : List (Datum × Datum)} {d : Datum} (h : d ∈ listed key entries) :
    sizeOf d < sizeOf entries := by
  rw [listed, listed?] at h
  split at h
  · cases h
  · next raw hf =>
    cases hl : raw.listing? with
    | none =>
      rw [hl] at h
      cases h
    | some ds =>
      rw [hl] at h
      exact lt_trans (Datum.sizeOf_listing? hl h) (Datum.sizeOf_field? hf)

theorem sizeOf_partOf {entries : List (Datum × Datum)} {d : Datum} (h : d ∈ partsOf entries) :
    sizeOf d < sizeOf entries := by
  rcases List.mem_append.1 h with h | h
  · rcases List.mem_append.1 h with h | h
    · exact Datum.sizeOf_present? (Option.mem_toList.1 h)
    · exact sizeOf_listed h
  · exact sizeOf_listed h

/-- The nodes at and below a value, each with its entries: a node, then those of its parts. -/
def nodesIn (d : Datum) : List (List (Datum × Datum)) :=
  match _h : d.core with
  | .map entries => entries :: (partsOf entries).attach.flatMap fun p => nodesIn p.1
  | _ => []
termination_by sizeOf d
decreasing_by exact lt_trans (sizeOf_partOf p.2) (sizeOf_entries_lt _h)

theorem nodesIn_of_map {d : Datum} {entries : List (Datum × Datum)} (h : d.core = .map entries) :
    nodesIn d = entries :: (partsOf entries).flatMap nodesIn := by
  rw [nodesIn]
  split
  · next h' =>
    cases h.symm.trans h'
    rw [List.flatMap_subtype (g := nodesIn) (by simp), List.unattach_attach]
  · next h' => exact absurd h (h' _)

/-- The body of a unit. -/
def bodyOf? (raw : Datum) : Option Datum :=
  match raw.core with
  | .map entries => Datum.field? "body" entries
  | _ => none

/-- The nodes of units, one unit after the other. -/
def nodesOfUnits (raws : List Datum) : List (List (Datum × Datum)) := (raws.filterMap bodyOf?).flatMap nodesIn

/-- The nodes of a document, unit by unit. -/
def documentNodes (doc : Datum) : List (List (Datum × Datum)) :=
  match doc.core with
  | .map entries => nodesOfUnits (listed "units" entries)
  | _ => []

/-! ## What reading asks of a node and files for it -/

/-- A node has a number: its field converts to it. -/
def HasNumber (node : List (Datum × Datum)) (id : Int) : Prop :=
  ∃ raw, Datum.field? "id" node = some raw ∧ whole "id" raw = .ok id

/-- What is filed for a node: its number, its type and what it denotes, where it has them. -/
structure Row where
  id : Int
  ty : Option Int
  use : Option Denotation

/-- A row as a filing. -/
def Row.filing (r : Row) : Filing :=
  ⟨[r.id], r.ty.toList.map fun ty => (r.id, ty), r.use.toList.map fun use => (r.id, use)⟩

/-- A row says what the fields of a node convert to. -/
structure RowOf (node : List (Datum × Datum)) (r : Row) : Prop where
  number : HasNumber node r.id
  type : wholeField? s!"ty of node {r.id}" "ty" node = .ok r.ty
  use : (Datum.field? "res" node).mapM denotation = .ok r.use

/-- These numbers and this filing come of the nodes, one row for each of them. -/
def Records (nodes : List (List (Datum × Datum))) (ids : List Int) (f : Filing) : Prop :=
  ∃ rows : List Row, List.Forall₂ RowOf nodes rows ∧ f = .all (rows.map Row.filing) ∧ ids = rows.map Row.id

/-- The fields of a node can be read, whatever number it has. -/
structure Proper (file : String) (entries : List (Datum × Datum)) : Prop where
  number : ∃ raw, Datum.field? "id" entries = some raw
  kind : ∃ kind, Datum.field? "kind" entries = some kind
  type : ∃ ty, ∀ what, wholeField? what "ty" entries = .ok ty
  use : ∃ use, (Datum.field? "res" entries).mapM denotation = .ok use
  place : ∃ place, spanOf file entries = .ok place
  args : ∃ ds, listed? "args" entries = some ds
  children : ∃ ds, listed? "children" entries = some ds
  typeArgs : ∃ ds, items (Datum.field? "type_args" entries) = .ok ds

/-- Reading finds no fault with a tree but in its numbers. -/
inductive Sound (file : String) : Datum → Prop
  | node {d : Datum} {entries : List (Datum × Datum)} (mapping : d.core = .map entries)
      (own : Proper file entries) (below : ∀ p ∈ partsOf entries, Sound file p) : Sound file d

theorem Filing.all_append (fs gs : List Filing) : all (fs ++ gs) = all fs ++ all gs := by
  simp only [all, List.flatMap_append]
  rfl

theorem Filing.append_assoc (f g h : Filing) : f ++ g ++ h = f ++ (g ++ h) := by
  show Filing.mk _ _ _ = Filing.mk _ _ _
  simp only [Filing.ids_append, Filing.types_append, Filing.uses_append, List.append_assoc]

section
variable {nodes nodes' : List (List (Datum × Datum))} {ids ids' : List Int} {f f' : Filing}

theorem records_nil : Records [] [] {} := ⟨[], .nil, rfl, rfl⟩

theorem Records.append (h : Records nodes ids f) (h' : Records nodes' ids' f') :
    Records (nodes ++ nodes') (ids ++ ids') (f ++ f') := by
  obtain ⟨rows, read, rfl, rfl⟩ := h
  obtain ⟨rows', read', rfl, rfl⟩ := h'
  refine ⟨rows ++ rows', List.rel_append read read', ?_, List.map_append.symm⟩
  rw [List.map_append, Filing.all_append]

theorem RowOf.records {node : List (Datum × Datum)} {r : Row} (h : RowOf node r) :
    Records [node] [r.id] r.filing := by
  refine ⟨[r], .cons h .nil, ?_, rfl⟩
  show r.filing = r.filing ++ Filing.all []
  exact (Filing.append_empty r.filing).symm

/-- The numbers are those of the nodes, and nothing is filed under others. -/
theorem Records.ids_eq (h : Records nodes ids f) : f.ids = ids := by
  obtain ⟨rows, -, rfl, rfl⟩ := h
  show (rows.map Row.filing).flatMap Filing.ids = rows.map Row.id
  rw [List.flatMap_map]
  exact List.flatMap_pure_eq_map Row.id rows

end

/-! ## Fields of a node -/

theorem whole_ok_congr {what : String} {d : Datum} {n : Int} (h : whole what d = .ok n) (what' : String) :
    whole what' d = .ok n := by
  unfold whole at h ⊢
  split at h
  · cases h
  · cases hn : d.toWhole with
    | ok n =>
      rw [hn] at h
      exact h
    | error fault =>
      rw [hn] at h
      cases fault <;> cases h

/-- A field goes through where it is absent, or where what it holds goes through. -/
theorem mapM_eq_ok_iff {ε α β : Type} {read : α → Except ε β} {o : Option α} {r : Option β} :
    o.mapM read = .ok r ↔ o = none ∧ r = none ∨ ∃ a b, o = some a ∧ read a = .ok b ∧ r = some b := by
  cases o with
  | none =>
    constructor
    · rintro ⟨⟩
      exact .inl ⟨rfl, rfl⟩
    · rintro (⟨-, rfl⟩ | ⟨a, b, ⟨⟩, -⟩)
      rfl
  | some a =>
    rw [Option.mapM_some]
    cases h : read a with
    | error e =>
      constructor
      · rintro ⟨⟩
      · rintro (⟨⟨⟩, -⟩ | ⟨_, b, ⟨⟩, hb, -⟩)
        cases h.symm.trans hb
    | ok b =>
      constructor
      · rintro ⟨⟩
        exact .inr ⟨a, b, rfl, h, rfl⟩
      · rintro (⟨⟨⟩, -⟩ | ⟨_, b', ⟨⟩, hb, rfl⟩)
        cases h.symm.trans hb
        rfl

theorem wholeField?_eq (what key : String) (entries : List (Datum × Datum)) :
    wholeField? what key entries = (Datum.present? key entries).mapM (whole what) := by
  rw [wholeField?]
  cases Datum.present? key entries with
  | none => rfl
  | some raw => exact (Option.mapM_some ..).symm

theorem wholeField?_ok_congr {what key : String} {entries : List (Datum × Datum)} {o : Option Int}
    (h : wholeField? what key entries = .ok o) (what' : String) : wholeField? what' key entries = .ok o := by
  rw [wholeField?_eq, mapM_eq_ok_iff] at h ⊢
  rcases h with absent | ⟨raw, n, given, read, rfl⟩
  · exact .inl absent
  · exact .inr ⟨raw, n, given, whole_ok_congr read what', rfl⟩

theorem fileType_records (id : Int) (entries : List (Datum × Datum)) :
    Reads (fileType id entries) fun _ f => ∃ ty, wholeField? s!"ty of node {id}" "ty" entries = .ok ty ∧
      f = { types := ty.toList.map fun ty => (id, ty) } := by
  simp only [wholeField?_eq, mapM_eq_ok_iff]
  unfold fileType
  split
  · next absent => exact reads_pure ⟨none, .inl ⟨absent, rfl⟩, rfl⟩
  · next raw given =>
    refine (reads_lift _).bind ?_
    rintro ty _ ⟨read, rfl⟩ s a s' hr
    cases hr
    exact ⟨{ types := [(id, ty)] }, ⟨some ty, .inr ⟨raw, ty, given, read, rfl⟩, rfl⟩,
      ⟨List.nodup_nil, List.forall_mem_nil _⟩, fun t _ => rfl⟩

theorem fileDenotation_records (id : Int) (entries : List (Datum × Datum)) :
    Reads ( fileDenotation id entries) fun _ f => ∃ use, (Datum.field? "res" entries).mapM denotation = .ok use ∧
      f = { uses := use.toList.map fun use => (id, use) } := by
  simp only [mapM_eq_ok_iff]
  unfold fileDenotation
  split
  · next absent => exact reads_pure ⟨none, .inl ⟨absent, rfl⟩, rfl⟩
  · next raw given =>
    refine (reads_lift _).bind ?_
    rintro use _ ⟨read, rfl⟩ s a s' hr
    cases hr
    exact ⟨{ uses := [(id, use)] }, ⟨some use, .inr ⟨raw, use, given, read, rfl⟩, rfl⟩,
      ⟨List.nodup_nil, List.forall_mem_nil _⟩, fun t _ => rfl⟩

/-! ## Lists of nodes -/

/-- The nodes of a listing are read in turn. -/
theorem nodesOf_of_listing (file : String) {d : Datum} {ds : List Datum} (h : d.listing? = some ds) :
    nodesOf file d = nodes file ds := by
  rw [nodesOf.eq_def]
  cases truth : d.isTruthy with
  | false =>
    cases (Datum.listing?_of_false truth).symm.trans h
    rw [if_neg Bool.false_ne_true, nodes]
  | true =>
    rw [if_pos rfl]
    cases d with
    | list items | tuple items =>
      cases h
      rfl
    | again up c => exact nodesOf_of_listing file (d := c) h
    | _ => simp [Datum.listing?, truth] at h
termination_by sizeOf d

/-- Items of what is no list are refused, and so is what has none. -/
theorem items_refused {d : Datum} (truth : d.isTruthy = true) :
    ∃ fault, (match d.items? with
      | some (first :: _) => refuse (.notNode first)
      | some [] => pure []
      | none => throw (.misused .noItems) : Reading (List Expr)) = throw fault := by
  split
  · exact ⟨_, rfl⟩
  · next empty => exact absurd empty (Datum.items?_ne_nil truth)
  · exact ⟨_, rfl⟩

theorem nodesOf_of_no_listing (file : String) {d : Datum} (h : d.listing? = none) :
    ∃ fault, nodesOf file d = throw fault := by
  have truth : d.isTruthy = true := by
    by_contra falsity
    cases (Datum.listing?_of_false (Bool.not_eq_true _ ▸ falsity)).symm.trans h
  rw [nodesOf.eq_def, if_pos truth]
  cases d with
  | list items | tuple items => cases h
  | again up c => exact nodesOf_of_no_listing file (d := c) h
  | _ => exact items_refused truth
termination_by sizeOf d

section
variable {file : String}

/-- What reading a value as a node comes to when it goes through. -/
def ReadNode (file : String) (d : Datum) (e : Expr) (f : Filing) : Prop :=
  Sound file d ∧ Records (nodesIn d) e.ids f

/-- What reading a list of values comes to when it goes through. -/
def ReadAll (file : String) (ds : List Datum) (es : List Expr) (f : Filing) : Prop :=
  (∀ d ∈ ds, Sound file d) ∧ Records (ds.flatMap nodesIn) (es.flatMap Expr.ids) f

theorem nodes_records {ds : List Datum}
    (h : ∀ d ∈ ds, Reads (node file d) (ReadNode file d)) :
    Reads (nodes file ds) (ReadAll file ds) := by
  induction ds with
  | nil =>
    rw [nodes]
    exact reads_pure ⟨List.forall_mem_nil _, records_nil⟩
  | cons d rest ih =>
    obtain ⟨hd, hrest⟩ := List.forall_mem_cons.1 h
    rw [nodes]
    refine hd.bind fun e f first => ?_
    refine (ih hrest).bind fun es f' later => reads_pure ⟨List.forall_mem_cons.2 ⟨first.1, later.1⟩, ?_⟩
    rw [Filing.append_empty]
    exact first.2.append later.2

theorem listOf_records {key : String} {entries : List (Datum × Datum)}
    (h : ∀ d ∈ listed key entries, Reads (node file d) (ReadNode file d)) :
    Reads (listOf file key entries) fun es f =>
      (∃ ds, listed? key entries = some ds) ∧ ReadAll file (listed key entries) es f := by
  unfold listOf
  split
  · next hf =>
    have none : listed? key entries = some [] := by rw [listed?, hf]
    refine reads_pure ⟨⟨_, none⟩, ?_⟩
    rw [listed, none]
    exact ⟨List.forall_mem_nil _, records_nil⟩
  · next raw hf =>
    have same : listed? key entries = raw.listing? := by rw [listed?, hf]
    cases hl : raw.listing? with
    | none =>
      obtain ⟨fault, refused⟩ := nodesOf_of_no_listing file hl
      rw [refused]
      exact reads_throw fault
    | some ds =>
      rw [hl] at same
      rw [listed, same] at h ⊢
      rw [nodesOf_of_listing file hl]
      intro s es s' hr
      obtain ⟨f, read, more⟩ := nodes_records h s es s' hr
      exact ⟨f, ⟨⟨ds, rfl⟩, read⟩, more⟩

theorem calleeOf_records {entries : List (Datum × Datum)}
    (h : ∀ d ∈ (Datum.present? "callee" entries).toList, Reads (node file d) (ReadNode file d)) :
    Reads (calleeOf file entries) fun callee f =>
      ReadAll file (Datum.present? "callee" entries).toList callee.toList f := by
  unfold calleeOf
  split
  · next hp =>
    rw [hp]
    exact reads_pure ⟨List.forall_mem_nil _, records_nil⟩
  · next raw hp =>
    rw [hp] at h ⊢
    rw [← bind_pure_comp]
    refine (h raw List.mem_cons_self).bind fun e f read => reads_pure ⟨List.forall_mem_singleton.2 read.1, ?_⟩
    rw [Filing.append_empty]
    simpa using read.2

end

/-! ## Trees -/

/-- A tree is read node by node, in document order. -/
theorem node_records (file : String) (d : Datum) : Reads (node file d) (ReadNode file d) := by
  unfold node
  split
  · next entries mapping =>
    have below : ∀ p ∈ partsOf entries, Reads (node file p) (ReadNode file p) := by
      intro p hp
      have hlt := lt_trans (sizeOf_partOf hp) (sizeOf_entries_lt mapping)
      exact node_records file p
    split
    · next rawId kind hid hkind =>
      refine (reads_lift _).bind ?_
      rintro id _ ⟨number, rfl⟩
      refine (claim_reads id).bind ?_
      rintro _ _ rfl
      refine (fileType_records id entries).bind ?_
      rintro _ _ ⟨ty, type, rfl⟩
      refine (fileDenotation_records id entries).bind ?_
      rintro _ _ ⟨use, denotes, rfl⟩
      refine (reads_lift _).bind ?_
      rintro place _ ⟨hplace, rfl⟩
      refine (calleeOf_records fun p hp => below p ?_).bind ?_
      · exact List.mem_append_left _ (List.mem_append_left _ hp)
      rintro callee fc ⟨soundCallee, readCallee⟩
      refine (listOf_records fun p hp => below p ?_).bind ?_
      · exact List.mem_append_left _ (List.mem_append_right _ hp)
      rintro args fa ⟨hargs, soundArgs, readArgs⟩
      refine (listOf_records fun p hp => below p ?_).bind ?_
      · exact List.mem_append_right _ hp
      rintro children fs ⟨hchildren, soundChildren, readChildren⟩
      refine (reads_lift _).bind ?_
      rintro typeArgs _ ⟨hitems, rfl⟩
      have own : Proper file entries := ⟨⟨_, hid⟩, ⟨_, hkind⟩, ⟨ty, wholeField?_ok_congr type⟩, ⟨_, denotes⟩,
        ⟨_, hplace⟩, hargs, hchildren, ⟨_, hitems⟩⟩
      refine reads_pure ⟨.node mapping own ?_, ?_⟩
      · simp only [partsOf, List.forall_mem_append]
        exact ⟨⟨soundCallee, soundArgs⟩, soundChildren⟩
      · have row : RowOf entries ⟨id, ty, use⟩ := ⟨⟨_, hid, number⟩, type, denotes⟩
        have all := row.records.append ((readCallee.append readArgs).append readChildren)
        simp only [Filing.empty_append, Filing.append_empty]
        rw [nodesIn_of_map mapping, Expr.ids_eq, partsOf, Expr.parts]
        simp only [List.flatMap_append]
        rw [Filing.append_assoc] at all
        exact all
    · exact reads_throw _
  · exact reads_throw _
termination_by sizeOf d

/-! ## Units -/

/-- Reading finds no fault with a unit but in the numbers of its nodes. -/
def SoundUnit (origin : String) (raw : Datum) : Prop :=
  ∃ entries body, raw.core = .map entries ∧ Datum.field? "body" entries = some body ∧
    Sound (textOr entries "file" origin) body

theorem bodyOf?_of_map {raw : Datum} {entries : List (Datum × Datum)} (h : raw.core = .map entries) :
    bodyOf? raw = Datum.field? "body" entries := by
  simp only [bodyOf?, h]

theorem nodesOfUnits_cons {raw body : Datum} (h : bodyOf? raw = some body) (rest : List Datum) :
    nodesOfUnits (raw :: rest) = nodesIn body ++ nodesOfUnits rest := by
  rw [nodesOfUnits, List.filterMap_cons_some h, List.flatMap_cons]
  rfl

theorem codeUnit_records (origin : String) (number : Nat) (raw : Datum) :
    Reads (codeUnit origin number raw) fun u f => SoundUnit origin raw ∧
      ∃ body, bodyOf? raw = some body ∧ Records (nodesIn body) u.body.ids f := by
  unfold codeUnit
  split
  · next entries mapping =>
    split
    · next body given =>
      refine (node_records _ body).bind fun e f read => ?_
      refine reads_pure ⟨⟨_, _, mapping, given, read.1⟩, body, ?_, ?_⟩
      · rw [bodyOf?_of_map mapping, given]
      · rw [Filing.append_empty]
        exact read.2
    · exact reads_throw _
  · exact reads_throw _

theorem codeUnits_records (origin : String) (done : Nat) (raws : List Datum) :
    Reads (codeUnits origin done raws) fun us f => (∀ raw ∈ raws, SoundUnit origin raw) ∧
      Records (nodesOfUnits raws) (us.flatMap fun u => u.body.ids) f := by
  induction raws generalizing done with
  | nil => exact reads_pure ⟨List.forall_mem_nil _, records_nil⟩
  | cons raw rest ih =>
    refine (codeUnit_records origin (done + 1) raw).bind ?_
    rintro u f ⟨sound, body, given, read⟩
    refine (ih (done + 1)).bind ?_
    rintro us f' ⟨soundRest, readRest⟩
    refine reads_pure ⟨List.forall_mem_cons.2 ⟨sound, soundRest⟩, ?_⟩
    rw [Filing.append_empty, nodesOfUnits_cons given, List.flatMap_cons]
    exact read.append readRest

/-! ## The crate -/

/-- A crate has under a number what the fields of a node convert to. -/
structure Recorded (c : Crate) (node : List (Datum × Datum)) (id : Int) : Prop where
  number : HasNumber node id
  type : wholeField? s!"ty of node {id}" "ty" node = .ok (c.types.nodeTypes.get? id)
  use : (Datum.field? "res" node).mapM denotation = .ok (c.denotations.get? id)

/-- The numbers of the nodes of a crate, in the order of the walk. -/
def nodeNumbers (c : Crate) : List Int := c.nodes.map fun p => p.2.id

theorem nodeNumbers_eq (c : Crate) : nodeNumbers c = c.units.flatMap fun u => u.body.ids := by
  rw [nodeNumbers, Crate.nodes, List.map_flatMap]
  refine List.flatMap_congr fun u _ => ?_
  rw [List.map_map, Expr.walk_eq_preorder]
  rfl

/-- The units that a document lists are listed by its field. -/
theorem listed_of_rawUnits {origin : String} {entries : List (Datum × Datum)} {raws : List Datum}
    (h : rawUnits origin (Datum.field? "units" entries) = .ok raws) : listed "units" entries = raws := by
  rw [listed, listed?]
  cases hf : Datum.field? "units" entries with
  | none =>
    rw [hf] at h
    cases h
    rfl
  | some d =>
    rw [hf, rawUnits] at h
    split at h
    · split at h
      · next ds hd =>
        cases h
        simp only [Datum.listing?_of_list hd]
        rfl
      · cases h
    · next falsity =>
      cases h
      simp only [Datum.listing?_of_false (Bool.not_eq_true _ ▸ falsity)]
      rfl

/-- A table that is filed row by row has under the number of each row what this row gives. -/
theorem get?_filed {α : Type} (given : Row → Option α) {rows : List Row} (distinct : (rows.map Row.id).Nodup)
    {t : Table Int α}
    (filed : t = Table.empty.insertAll (rows.flatMap fun r => (given r).toList.map fun a => (r.id, a))) :
    (∀ r ∈ rows, t.get? r.id = given r) ∧ ∀ id ∉ rows.map Row.id, t.get? id = none := by
  have own : ∀ r : Row, ∀ e ∈ (given r).toList.map fun a => (r.id, a), e.1 ∈ [r.id] := by
    intro r e he
    obtain ⟨a, -, rfl⟩ := List.mem_map.1 he
    exact List.mem_singleton_self r.id
  have keys : (rows.flatMap fun r => [r.id]).Nodup := by
    have same : (rows.flatMap fun r => [r.id]) = rows.map Row.id := List.flatMap_pure_eq_map Row.id rows
    rwa [same]
  constructor
  · intro r hr
    have alone : (Table.empty.insertAll ((given r).toList.map fun a => (r.id, a))).get? r.id = given r := by
      cases given r with
      | none => rfl
      | some a => exact (Table.get?_insert Table.empty r.id r.id a).trans (if_pos rfl)
    rw [filed, Table.get?_insertAll_flatMap (fun r _ => own r) keys hr (List.mem_singleton_self r.id) rfl, alone]
  · intro id hid
    rw [filed, Table.get?_insertAll_of_ne, Table.get?_empty]
    rintro e he rfl
    obtain ⟨r, hr, he⟩ := List.mem_flatMap.1 he
    exact hid (List.mem_map.2 ⟨r, hr, (List.mem_singleton.1 (own r e he)).symm⟩)

theorem Records.lookups {nodes : List (List (Datum × Datum))} {ids : List Int} {f : Filing}
    (h : Records nodes ids f) (distinct : ids.Nodup) {c : Crate}
    (types : c.types.nodeTypes = Table.empty.insertAll f.types)
    (uses : c.denotations = Table.empty.insertAll f.uses) :
    List.Forall₂ (Recorded c) nodes ids ∧
      ∀ id ∉ ids, c.types.nodeTypes.get? id = none ∧ c.denotations.get? id = none := by
  obtain ⟨rows, read, rfl, rfl⟩ := h
  simp only [Filing.all, List.flatMap_map] at types uses
  obtain ⟨typesAt, noTypes⟩ := get?_filed Row.ty distinct types
  obtain ⟨usesAt, noUses⟩ := get?_filed Row.use distinct uses
  refine ⟨?_, fun id hid => ⟨noTypes id hid, noUses id hid⟩⟩
  have within : List.Forall₂ (fun r node => r ∈ rows ∧ RowOf node r) rows nodes :=
    (List.forall₂_and_left _ _).2 ⟨fun _ hr => hr, read.flip⟩
  rw [List.forall₂_map_right_iff]
  refine within.flip.imp fun node r hr => ⟨hr.2.number, ?_, ?_⟩
  · rw [typesAt r hr.1]
    exact hr.2.type
  · rw [usesAt r hr.1]
    exact hr.2.use

/-- A document that gives a crate gives it its nodes: they are numbered, each with a number of its own, in
document order, and nothing is recorded but what their fields say. -/
theorem recorded_of_crate {origin : String} {doc : Datum} {c : Crate} (load : crate origin doc = .ok c) :
    (nodeNumbers c).Nodup ∧ List.Forall₂ (Recorded c) (documentNodes doc) (nodeNumbers c) ∧
      ∀ id ∉ nodeNumbers c, c.types.nodeTypes.get? id = none ∧ c.denotations.get? id = none := by
  obtain ⟨entries, hd⟩ : ∃ entries, doc.core = .map entries := by
    unfold crate at load
    split at load
    · next entries hd => exact ⟨entries, hd⟩
    · cases load
  obtain ⟨-, raws, filed, hraws, hu, types, uses⟩ := (crate_eq_ok_iff hd).1 load
  obtain ⟨f, ⟨-, read⟩, fresh, run⟩ := codeUnits_records origin 0 raws _ _ _ hu
  have hf : filed = Filed.empty.add f := by
    cases hu.symm.trans (run _ fresh)
    rfl
  subst hf
  have nodes : documentNodes doc = nodesOfUnits raws := by
    simp only [documentNodes, hd, listed_of_rawUnits hraws]
  have distinct : (c.units.flatMap fun u => u.body.ids).Nodup := read.ids_eq ▸ fresh.nodup
  rw [nodeNumbers_eq, nodes]
  exact ⟨distinct, read.lookups distinct types uses⟩

end Dump

end ChainLint
