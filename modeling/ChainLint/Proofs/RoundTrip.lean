import ChainLint.Proofs.Reordering
import ChainLint.Proofs.Written
/-!
# Crates come back from their documents

A reader of nodes and units is described by what it gives and what it files on
the way (`Dump.Runs`). Reading a node back files what the crate has recorded
for it and everything below it (`Dump.runs_node`), so a crate is loaded from its
document as it was (`Dump.document_round_trip`). Only a null in place of what a
node denotes comes back as something else, an entry where nothing is known.
-/

namespace ChainLint

/-! ## Tables put together entry by entry -/

namespace Table

variable {κ α : Type} [DecidableEq κ]

theorem put_of_not_mem {k : κ} {l : List (κ × α)} (h : k ∉ l.map (·.1)) (v : α) : put k v l = l ++ [(k, v)] := by
  induction l with
  | nil => rfl
  | cons e rest ih =>
    obtain ⟨he, hrest⟩ := not_or.1 (mt List.mem_cons.2 h)
    rw [put, if_neg (Ne.symm he), ih hrest, List.cons_append]

/-- Pairs under distinct new keys are put at the end. -/
theorem entries_insertAll {t : Table κ α} {pairs : List (κ × α)} (h : ((t.entries ++ pairs).map (·.1)).Nodup) :
    (t.insertAll pairs).entries = t.entries ++ pairs := by
  induction pairs generalizing t with
  | nil => exact (List.append_nil _).symm
  | cons e rest ih =>
    have new : e.1 ∉ t.entries.map (·.1) := by
      rw [List.map_append] at h
      exact fun hm => (List.nodup_append.1 h).2.2 e.1 hm e.1 List.mem_cons_self rfl
    have put : (t.insert e.1 e.2).entries = t.entries ++ [e] := put_of_not_mem new e.2
    have later := @ih (t.insert e.1 e.2) (by rwa [put, List.append_assoc])
    rw [put, List.append_assoc] at later
    exact later

theorem DistinctKeys.ofList_entries {t : Table κ α} (h : t.DistinctKeys) : ofList t.entries = t :=
  congrArg Table.mk (@entries_insertAll κ α _ empty t.entries h)

/-- What a table has under some keys, or a default where a choice says so. -/
theorem perm_filterMap {t : Table κ α} (ht : t.DistinctKeys) {keys : List κ} (hn : keys.Nodup)
    (hk : ∀ e ∈ t.entries, e.1 ∈ keys) (p : κ → Bool) (d : α) :
    (keys.filterMap fun k => ((t.get? k).or (if p k then some d else none)).map fun v => (k, v)).Perm
      (t.entries ++ (keys.filter fun k => (t.get? k).isNone && p k).map fun k => (k, d)) := by
  have found : ∀ k v, t.get? k = some v ↔ (k, v) ∈ t.entries := fun k v => find?_eq_some_iff ht
  refine (List.perm_ext_iff_of_nodup ?_ ?_).2 ?_
  · refine hn.filterMap fun k k' e he he' => ?_
    obtain ⟨v, -, rfl⟩ := Option.map_eq_some_iff.1 he
    obtain ⟨v', -, h⟩ := Option.map_eq_some_iff.1 he'
    exact (congrArg Prod.fst h).symm
  · refine List.Nodup.append (List.Nodup.of_map _ ht) ?_ ?_
    · exact (hn.filter _).map fun k k' h => congrArg Prod.fst h
    · intro e he hd
      obtain ⟨k, hm, rfl⟩ := List.mem_map.1 hd
      have none := (List.mem_filter.1 hm).2
      rw [(found k d).2 he] at none
      cases none
  · rintro ⟨k, v⟩
    have read : (k, v) ∈ keys.filterMap (fun k => ((t.get? k).or (if p k then some d else none)).map fun v => (k, v)) ↔
        k ∈ keys ∧ (t.get? k).or (if p k then some d else none) = some v := by
      simp [List.mem_filterMap, and_left_comm]
    have defaulted : (k, v) ∈ (keys.filter fun k => (t.get? k).isNone && p k).map (fun k => (k, d)) ↔
        k ∈ keys ∧ t.get? k = none ∧ (if p k then some d else none) = some v := by
      simp [and_assoc]
    have listed : t.get? k = some v → k ∈ keys := fun h => hk _ ((found k v).1 h)
    rw [read, List.mem_append, ← found, Option.or_eq_some_iff, defaulted]
    tauto

end Table

namespace Dump

/-! ## Steps whose outcome is known -/

/-- From every state in which its numbers are fresh, a step gives this and files this. -/
def Runs {α : Type} (r : Reading α) (a : α) (f : Filing) : Prop :=
  ∀ s, f.Fresh s → r.run s = .ok (a, s.add f)

section
variable {α β : Type} {a : α} {b : β} {f f' : Filing}

theorem runs_pure (a : α) : Runs (pure a) a {} := fun _ _ => rfl

theorem Runs.bind {r : Reading α} {g : α → Reading β} (hr : Runs r a f) (hg : Runs (g a) b f') :
    Runs (r >>= g) b (f ++ f') := by
  intro s hs
  obtain ⟨hf, hf'⟩ := Filing.fresh_append.1 hs
  rw [StateT.run_bind, hr s hf, Filed.add_append]
  exact hg _ hf'

theorem runs_lift_bind {x : Except LoadFault α} {g : α → Reading β} (h : x = .ok a) (hg : Runs (g a) b f) :
    Runs (liftM x >>= g) b f := by
  subst h
  exact hg

/-- What is made of a result files nothing more. -/
theorem Runs.bind_pure {r : Reading α} (hr : Runs r a f) (g : α → β) : Runs (r >>= fun a => pure (g a)) (g a) f := by
  have h := hr.bind (g := fun a => pure (g a)) (runs_pure (g a))
  rwa [Filing.append_empty] at h

theorem runs_claim (id : Int) : Runs (claim id) () { ids := [id] } := by
  intro s hs
  rw [claim_run, if_neg (hs.unclaimed id (List.mem_singleton_self id))]
  rfl

end

/-! ## What the nodes of a crate file -/

/-- What is read at a node as what it denotes: what the crate has there, or nothing known where a null
was written. -/
def useRead (c : Crate) (nulls : Nulls) (id : Int) : Option Denotation :=
  (c.denotations.get? id).or (if nulls.node id "res" then some {} else none)

/-- What nodes of these numbers file. -/
def filingOf (c : Crate) (nulls : Nulls) (ids : List Int) : Filing where
  ids
  types := ids.filterMap fun id => (c.types.nodeTypes.get? id).map fun ty => (id, ty)
  uses := ids.filterMap fun id => (useRead c nulls id).map fun use => (id, use)

section
variable {c : Crate} {nulls : Nulls} {file : String}

theorem filingOf_append (ids ids' : List Int) :
    filingOf c nulls (ids ++ ids') = filingOf c nulls ids ++ filingOf c nulls ids' := by
  show Filing.mk _ _ _ = Filing.mk _ _ _
  rw [List.filterMap_append, List.filterMap_append]
  rfl

theorem runs_fileType {id : Int} {entries : List (Datum × Datum)}
    (h : Datum.present? "ty" entries = (c.types.nodeTypes.get? id).map Datum.int) :
    Runs (fileType id entries) () { types := (filingOf c nulls [id]).types } := by
  unfold fileType
  rw [h]
  intro s hs
  cases ht : c.types.nodeTypes.get? id <;> simp [filingOf, ht] <;> rfl

theorem runs_fileUse {id : Int} {entries : List (Datum × Datum)}
    (h : Datum.field? "res" entries = written (nulls.node id "res") ((c.denotations.get? id).map (useDatum nulls id))) :
    Runs ( fileDenotation id entries) () { uses := (filingOf c nulls [id]).uses } := by
  unfold fileDenotation
  rw [h]
  intro s hs
  cases hu : c.denotations.get? id with
  | none => cases hn : nulls.node id "res" <;> simp [filingOf, useRead, hu, hn, written] <;> rfl
  | some use => simp [filingOf, useRead, hu, written, denotation_useDatum]; rfl

/-! ## Trees -/

theorem runs_nodes {es : List Expr}
    (h : ∀ e ∈ es, Runs (node file (nodeDatum c nulls e)) e (filingOf c nulls e.ids)) :
    Runs (nodes file (es.map (nodeDatum c nulls))) es (filingOf c nulls (es.flatMap Expr.ids)) := by
  induction es with
  | nil =>
    rw [List.map_nil, nodes]
    exact runs_pure []
  | cons e rest ih =>
    obtain ⟨he, hrest⟩ := List.forall_mem_cons.1 h
    rw [List.map_cons, nodes, List.flatMap_cons, filingOf_append]
    exact he.bind ((ih hrest).bind_pure fun es => e :: es)

theorem runs_listOf {key : String} {entries : List (Datum × Datum)} {es : List Expr}
    (hf : Datum.field? key entries = some (.list (es.map (nodeDatum c nulls))))
    (h : ∀ e ∈ es, Runs (node file (nodeDatum c nulls e)) e (filingOf c nulls e.ids)) :
    Runs (listOf file key entries) es (filingOf c nulls (es.flatMap Expr.ids)) := by
  unfold listOf
  split
  · next hn => cases hf.symm.trans hn
  · next raw hr =>
    cases hf.symm.trans hr
    unfold nodesOf
    cases es with
    | nil => exact runs_pure []
    | cons e rest => exact runs_nodes h

theorem runs_calleeOf {entries : List (Datum × Datum)} {callee : Option Expr}
    (hp : Datum.present? "callee" entries = callee.map (nodeDatum c nulls))
    (h : ∀ e ∈ callee, Runs (node file (nodeDatum c nulls e)) e (filingOf c nulls e.ids)) :
    Runs (calleeOf file entries) callee (filingOf c nulls (callee.toList.flatMap Expr.ids)) := by
  unfold calleeOf
  split
  · next hn =>
    cases callee with
    | none => exact runs_pure none
    | some e => cases hp.symm.trans hn
  · next raw hr =>
    cases callee with
    | none => cases hp.symm.trans hr
    | some e =>
      cases hp.symm.trans hr
      rw [← bind_pure_comp]
      simpa using (h e rfl).bind_pure some

/-- The fields of a node as they are found in its mapping. -/
theorem spanOf_of_written {entries : List (Datum × Datum)} {null : Bool} {s : Option Span}
    (h : Datum.field? "span" entries = written null (s.map spanDatum)) : spanOf file entries = .ok s := by
  rw [spanOf, h]
  cases s with
  | none => cases null <;> rfl
  | some s => exact span_spanDatum file s

theorem filingOf_ids (e : Expr) : filingOf c nulls e.ids =
    { ids := [e.id] } ++ ({ types := (filingOf c nulls [e.id]).types } ++
      ({ uses := (filingOf c nulls [e.id]).uses } ++ (filingOf c nulls (e.callee.toList.flatMap Expr.ids) ++
        (filingOf c nulls (e.args.flatMap Expr.ids) ++ filingOf c nulls (e.children.flatMap Expr.ids))))) := by
  rw [Expr.ids_eq, ← List.singleton_append, filingOf_append, Expr.parts, List.flatMap_append, List.flatMap_append,
    List.append_assoc, filingOf_append, filingOf_append]
  rfl

/-- A node is read as it was written, and files what the crate has at its nodes. -/
theorem runs_node (e : Expr) : Runs (node file (nodeDatum c nulls e)) e (filingOf c nulls e.ids) := by
  -- by recursion over the tree; a node is filed before its parts, as `filingOf_ids` has it
  have parts : ∀ p ∈ e.parts, Runs (node file (nodeDatum c nulls p)) p (filingOf c nulls p.ids) :=
    fun p hp => runs_node p
  have spelled := spells_nodeEntries c nulls e
  have shown : (e.typeArgs.map Datum.text).map Datum.display = e.typeArgs := by
    rw [List.map_map]
    exact List.map_id e.typeArgs
  rw [nodeDatum_eq, node, filingOf_ids]
  split
  · next entries hcore =>
    cases hcore
    split
    · next rawId rawKind hid hkind =>
      cases spelled.id.symm.trans hid
      cases spelled.kind.symm.trans hkind
      refine runs_lift_bind (a := e.id) rfl ?_
      refine (runs_claim e.id).bind ?_
      refine (runs_fileType spelled.ty).bind ?_
      refine (runs_fileUse spelled.res).bind ?_
      refine runs_lift_bind (spanOf_of_written spelled.span) ?_
      refine (runs_calleeOf spelled.callee fun p hp => parts p (by simp [Expr.parts, Option.mem_def.1 hp])).bind ?_
      refine (runs_listOf spelled.args fun p hp => parts p (by simp [Expr.parts, hp])).bind ?_
      rw [← Filing.append_empty (filingOf c nulls (e.children.flatMap Expr.ids))]
      refine (runs_listOf spelled.children fun p hp => parts p (by simp [Expr.parts, hp])).bind ?_
      refine runs_lift_bind (a := e.typeArgs.map Datum.text) (by rw [spelled.typeArgs, items_list]) ?_
      rw [spelled.path, spelled.text, shown]
      cases e
      exact runs_pure _
    · next none => exact absurd spelled.kind (none _ _ spelled.id)
  · next none => exact absurd rfl (none _)
termination_by sizeOf e
decreasing_by exact Expr.sizeOf_part hp

/-! ## Units -/

theorem runs_codeUnit {origin : String} {number : Nat} {u : CodeUnit} (hn : u.name ≠ "") (hf : u.file ≠ "") :
    Runs (codeUnit origin number (unitDatum c nulls u)) u (filingOf c nulls u.body.ids) := by
  have step : codeUnit origin number (unitDatum c nulls u) = (do
      let body ← node u.file (nodeDatum c nulls u.body)
      pure ⟨u.name, u.file, body⟩) := by
    simp [codeUnit, unitDatum, Datum.core, Datum.field?, textOr, Datum.isTruthy, Datum.display, hn, hf]
  rw [step]
  exact (runs_node u.body).bind_pure fun body => CodeUnit.mk u.name u.file body

theorem runs_codeUnits (origin : String) (done : Nat) {us : List CodeUnit} (h : ∀ u ∈ us, u.name ≠ "" ∧ u.file ≠ "") :
    Runs (codeUnits origin done (us.map (unitDatum c nulls))) us
      (filingOf c nulls (us.flatMap fun u => u.body.ids)) := by
  induction us generalizing done with
  | nil => exact runs_pure []
  | cons u rest ih =>
    obtain ⟨hu, hrest⟩ := List.forall_mem_cons.1 h
    rw [List.map_cons, codeUnits, List.flatMap_cons, filingOf_append]
    exact (runs_codeUnit hu.1 hu.2).bind ((ih (done + 1) hrest).bind_pure fun us => u :: us)

end

end Dump

/-! ## Crates -/

namespace Crate

/-- The numbers of the nodes of a crate, unit by unit. -/
def nodeIds (c : Crate) : List Int := c.units.flatMap fun u => u.body.ids

/-- A crate that a document can spell out: names are not empty, numbers tell the nodes apart, tables list
no key twice and only what there is, and the segments of paths are not empty and have no blanks around
them. -/
structure Writable (c : Crate) : Prop extends c.DistinctKeys where
  name : c.name ≠ ""
  units : ∀ u ∈ c.units, u.name ≠ "" ∧ u.file ≠ ""
  nodes : c.nodeIds.Nodup
  nodeTypes : c.types.nodeTypes.DistinctKeys ∧ ∀ e ∈ c.types.nodeTypes.entries, e.1 ∈ c.nodeIds
  denotations : c.denotations.DistinctKeys ∧ ∀ e ∈ c.denotations.entries, e.1 ∈ c.nodeIds
  typeIds : ∀ e ∈ c.types.types.entries, e.2.id = e.1
  declIds : ∀ e ∈ c.declarations.entries, e.2.id = e.1
  paths : ∀ e ∈ c.declarations.entries,
    e.2.path ≠ [] ∧ ∀ segment ∈ e.2.path, segment ≠ "" ∧ Text.trim segment = segment

/-- The same crate, where what is recorded for nodes may be listed in another order. -/
structure Same (c c' : Crate) : Prop where
  name : c'.name = c.name
  units : c'.units = c.units
  types : c'.types.types = c.types.types
  declarations : c'.declarations = c.declarations
  nodeTypes : c'.types.nodeTypes.entries.Perm c.types.nodeTypes.entries
  denotations : c'.denotations.entries.Perm c.denotations.entries

/-- The nodes at which a null is written in place of what they denote. -/
def nullNodes (c : Crate) (nulls : Nulls) : List Int :=
  c.nodeIds.filter fun id => (c.denotations.get? id).isNone && nulls.node id "res"

/-- The crate where nothing is known of these nodes, which is not the same as no entry. -/
def withNulls (c : Crate) (nulls : Nulls) : Crate :=
  { c with denotations := ⟨c.denotations.entries ++ (c.nullNodes nulls).map fun id => (id, {})⟩ }

end Crate

namespace Dump

section
variable {c : Crate}

/-- What is loaded from the document of a crate. -/
def reloaded (c : Crate) (nulls : Nulls) : Crate :=
  let filed := Filed.empty.add (filingOf c nulls c.nodeIds)
  ⟨c.name, c.units, ⟨c.types.types, filed.nodeTypes⟩, c.declarations, filed.denotations⟩

theorem crate_document (h : c.Writable) (nulls : Nulls) (origin : String) :
    crate origin (document c nulls) = .ok (reloaded c nulls) := by
  have types : numbered "type id" (typeEntry origin) (writeTable (typeDatum nulls) c.types.types) =
      .ok c.types.types := by
    rw [numbered_writeTable, h.types.ofList_entries]
    intro e he
    rw [← h.typeIds e he]
    exact typeEntry_typeDatum origin nulls e.2
  have declarations : numbered "def id" (declEntry origin) (writeTable (declDatum nulls) c.declarations) =
      .ok c.declarations := by
    rw [numbered_writeTable, h.declarations.ofList_entries]
    intro e he
    obtain ⟨segments, trimmed⟩ := h.paths e he
    rw [← h.declIds e he]
    exact declEntry_declDatum origin nulls e.2 segments trimmed (h.impls e he).ofList_entries
  have raws : rawUnits origin (some (.list (c.units.map (unitDatum c nulls)))) = .ok (c.units.map (unitDatum c nulls)) := by
    cases c.units <;> rfl
  have fresh : (filingOf c nulls c.nodeIds).Fresh Filed.empty := ⟨h.nodes, nofun⟩
  have head : HeadOf origin (documentEntries c nulls) (reloaded c nulls) := by
    refine ⟨?_, types, declarations⟩
    simp [textOr, documentEntries, Datum.field?, Datum.isTruthy, Datum.display, h.name, reloaded]
  have hd : (document c nulls).core = .map (documentEntries c nulls) := rfl
  exact (crate_eq_ok_iff hd).2 ⟨head, _, _, raws, runs_codeUnits origin 0 h.units _ fresh, rfl, rfl⟩

theorem keys_filterMap_nodup {α : Type} {ids : List Int} (hn : ids.Nodup) (find : Int → Option α) :
    ((ids.filterMap fun id => (find id).map fun a => (id, a)).map (·.1)).Nodup := by
  rw [List.map_filterMap]
  refine hn.filterMap fun id id' k hk hk' => ?_
  rw [Option.map_map] at hk hk'
  obtain ⟨a, -, h⟩ := Option.map_eq_some_iff.1 hk
  obtain ⟨a', -, h'⟩ := Option.map_eq_some_iff.1 hk'
  exact h.trans h'.symm

/-- What is loaded has what the crate has recorded for its nodes, and an empty entry at each node where a
null stands in place of what it denotes. -/
theorem reloaded_same (h : c.Writable) (nulls : Nulls) : (c.withNulls nulls).Same (reloaded c nulls) := by
  have types : (reloaded c nulls).types.nodeTypes.entries = (filingOf c nulls c.nodeIds).types :=
    Table.entries_insertAll (keys_filterMap_nodup h.nodes _)
  have uses : (reloaded c nulls).denotations.entries = (filingOf c nulls c.nodeIds).uses :=
    Table.entries_insertAll (keys_filterMap_nodup h.nodes _)
  refine ⟨rfl, rfl, rfl, rfl, ?_, ?_⟩
  · rw [types]
    simpa [filingOf, Crate.withNulls] using Table.perm_filterMap h.nodeTypes.1 h.nodes h.nodeTypes.2 (fun _ => false) 0
  · rw [uses]
    exact Table.perm_filterMap h.denotations.1 h.nodes h.denotations.2 (fun id => nulls.node id "res") {}

/-- The document of a crate loads, and what is loaded is the crate, with an empty entry at each node where
a null stands in place of what it denotes. -/
theorem document_round_trip (h : c.Writable) (nulls : Nulls) (origin : String) :
    ∃ c', crate origin (document c nulls) = .ok c' ∧ (c.withNulls nulls).Same c' ∧
      ((∀ id ∈ c.nodeIds, c.denotations.get? id = none → nulls.node id "res" = false) → c.Same c') := by
  refine ⟨reloaded c nulls, crate_document h nulls origin, reloaded_same h nulls, fun none => ?_⟩
  have without : c.nullNodes nulls = [] := by
    refine List.filter_eq_nil_iff.2 fun id hid written => ?_
    obtain ⟨hu, hr⟩ := Bool.and_eq_true_iff.1 written
    rw [none id hid (Option.isNone_iff_eq_none.1 hu)] at hr
    cases hr
  have same := reloaded_same h nulls
  rw [Crate.withNulls, without, List.map_nil, List.append_nil] at same
  exact same

end

/-! ## A crate with a broken unit and a sound one -/

theorem duoCrate_nodeIds : duoCrate.nodeIds = [1, 2, 3, 4] := by
  simp [Crate.nodeIds, duoCrate, Expr.ids_eq, Expr.parts]

theorem duoCrate_writable : duoCrate.Writable where
  types := by decide
  declarations := by decide
  impls := by decide
  name := by decide
  units := by decide
  nodes := by rw [duoCrate_nodeIds]; decide
  nodeTypes := by rw [duoCrate_nodeIds]; decide
  denotations := by rw [duoCrate_nodeIds]; decide
  typeIds := by decide
  declIds := by decide
  paths := by decide +kernel

theorem duoCrate_round_trip :
    duoCrate.Writable ∧ ∃ c', crate "m" (document duoCrate .exceptUses) = .ok c' ∧ duoCrate.Same c' := by
  obtain ⟨c', load, -, same⟩ := document_round_trip duoCrate_writable .exceptUses "m"
  exact ⟨duoCrate_writable, c', load, same fun id _ _ => rfl⟩

/-- A null in place of what a node denotes is loaded as an entry where nothing is known. -/
theorem nullUse_recorded :
    duoCrate.Writable ∧ ∃ c', crate "m" (document duoCrate .always) = .ok c' ∧
      duoCrate.denotations.get? 1 = none ∧ (1, {}) ∈ c'.denotations.entries ∧ ¬duoCrate.Same c' := by
  have nulls : duoCrate.nullNodes .always = [1, 3] := by
    rw [Crate.nullNodes, duoCrate_nodeIds]
    rfl
  have uses := (reloaded_same duoCrate_writable .always).denotations
  rw [Crate.withNulls, nulls] at uses
  have recorded : (1, {}) ∈ (reloaded duoCrate .always).denotations.entries := uses.mem_iff.2 (by simp)
  refine ⟨duoCrate_writable, _, crate_document duoCrate_writable .always "m", rfl, recorded, fun same => ?_⟩
  have listed := same.denotations.mem_iff.1 recorded
  exact absurd listed (by decide)

end Dump

end ChainLint
