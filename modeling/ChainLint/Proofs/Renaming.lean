import ChainLint.Proofs.AliasChain
import ChainLint.Proofs.Walk
import ChainLint.Tree.Shape
import Mathlib.Data.List.Basic
/-!
# Crates under other numbers

The numbers of nodes, of types and of declarations only tell things apart. A
renaming gives each of them another number. `Crate.Twin` says of two crates
that look-ups under renamed numbers find renamed things; then everything that
guards consult gives the same in both (`Crate.Twin.shapeOf`,
`Crate.Twin.resolve`), up to the numbers that faults name.
-/

namespace ChainLint

/-! ## Renamings -/

/-- Other numbers for nodes, types and declarations, different ones for different things of a sort. -/
structure Renaming where
  node : Int → Int
  type : Int → Int
  decl : Int → Int
  node_injective : Function.Injective node
  type_injective : Function.Injective type
  decl_injective : Function.Injective decl

/-- The renaming that leaves every number as it is. -/
def Renaming.same : Renaming :=
  ⟨fun n => n, fun n => n, fun n => n, fun _ _ h => h, fun _ _ h => h, fun _ _ h => h⟩

mutual

/-- The tree with other numbers of nodes. -/
def Expr.renumber (f : Int → Int) : Expr → Expr
  | ⟨id, kind, span, callee, args, children, path, typeArgs, text⟩ =>
    ⟨f id, kind, span, Expr.renumberCallee f callee, Expr.renumberAll f args, Expr.renumberAll f children,
      path, typeArgs, text⟩

/-- The callee with other numbers of nodes. -/
def Expr.renumberCallee (f : Int → Int) : Option Expr → Option Expr
  | none => none
  | some e => some (e.renumber f)

/-- The trees with other numbers of nodes. -/
def Expr.renumberAll (f : Int → Int) : List Expr → List Expr
  | [] => []
  | e :: r => e.renumber f :: Expr.renumberAll f r

end

/-- The unit with other numbers of nodes. -/
def CodeUnit.renumber (f : Int → Int) (u : CodeUnit) : CodeUnit := { u with body := u.body.renumber f }

/-- The table with other keys and values. -/
def Table.mapEntries {κ α β : Type} (f : κ → κ) (g : α → β) (t : Table κ α) : Table κ β :=
  ⟨t.entries.map fun e => (f e.1, g e.2)⟩

namespace Renaming

variable (ρ : Renaming)

/-- An entry of the type table under other numbers. -/
def typeEntry (t : TypeEntry) : TypeEntry := { t with id := ρ.type t.id, inner := t.inner.map ρ.type }

/-- A declaration under other numbers. -/
def declaration (d : Declaration) : Declaration :=
  { d with id := ρ.decl d.id, target := d.target.map ρ.decl, impls := d.impls.mapEntries ρ.type ρ.decl }

/-- What a path denotes, under other numbers. -/
def use (d : Denotation) : Denotation :=
  { d with
    decl := d.decl.map ρ.decl
    selfType := d.selfType.map ρ.type
    genericArgs := d.genericArgs.map ρ.type }

/-- A contradiction under other numbers. -/
def fault : Malformed → Malformed
  | .missingType ty => .missingType (ρ.type ty)
  | .missingNodeType node ty => .missingNodeType (ρ.node node) (ρ.type ty)
  | .missingDeclaration decl => .missingDeclaration (ρ.decl decl)
  | fault => fault

/-- A crate under other numbers. -/
def crate (c : Crate) : Crate where
  name := c.name
  units := c.units.map (CodeUnit.renumber ρ.node)
  types := ⟨c.types.types.mapEntries ρ.type ρ.typeEntry, c.types.nodeTypes.mapEntries ρ.node ρ.type⟩
  declarations := c.declarations.mapEntries ρ.decl ρ.declaration
  denotations := c.denotations.mapEntries ρ.node ρ.use

end Renaming

/-! ## Trees under other numbers -/

namespace Expr

variable (f : Int → Int)

@[simp] theorem renumberCallee_eq (callee : Option Expr) : renumberCallee f callee = callee.map (renumber f) := by
  cases callee <;> rfl

@[simp] theorem renumberAll_eq (es : List Expr) : renumberAll f es = es.map (renumber f) := by
  induction es with
  | nil => rfl
  | cons e r ih => rw [renumberAll, ih, List.map_cons]

@[simp] theorem renumber_id (e : Expr) : (e.renumber f).id = f e.id := by cases e; rfl
@[simp] theorem renumber_kind (e : Expr) : (e.renumber f).kind = e.kind := by cases e; rfl
@[simp] theorem renumber_span (e : Expr) : (e.renumber f).span = e.span := by cases e; rfl
@[simp] theorem renumber_path (e : Expr) : (e.renumber f).path = e.path := by cases e; rfl
@[simp] theorem renumber_text (e : Expr) : (e.renumber f).text = e.text := by cases e; rfl

@[simp] theorem renumber_callee (e : Expr) : (e.renumber f).callee = e.callee.map (renumber f) := by
  cases e
  exact renumberCallee_eq f _

@[simp] theorem renumber_args (e : Expr) : (e.renumber f).args = e.args.map (renumber f) := by
  cases e
  exact renumberAll_eq f _

@[simp] theorem renumber_children (e : Expr) : (e.renumber f).children = e.children.map (renumber f) := by
  cases e
  exact renumberAll_eq f _

theorem renumber_parts (e : Expr) : (e.renumber f).parts = e.parts.map (renumber f) := by
  simp only [parts, renumber_callee, renumber_args, renumber_children, List.map_append, Option.toList_map]

/-- The nodes of a tree under other numbers are its nodes under other numbers. -/
theorem renumber_preorder (e : Expr) : (e.renumber f).preorder = e.preorder.map (renumber f) := by
  rw [preorder_eq, preorder_eq e, renumber_parts, List.map_cons, List.map_flatMap, List.flatMap_map]
  congr 1
  refine List.flatMap_congr fun p hp => ?_
  exact renumber_preorder p
termination_by sizeOf e
decreasing_by exact sizeOf_part hp

mutual

theorem renumber_same (e : Expr) : e.renumber (fun n => n) = e := by
  match e with
  | ⟨id, kind, span, callee, args, children, path, typeArgs, text⟩ =>
    rw [renumber, renumberCallee_same callee, renumberAll_same args, renumberAll_same children]

theorem renumberCallee_same (callee : Option Expr) : renumberCallee (fun n => n) callee = callee := by
  match callee with
  | none => rfl
  | some e => rw [renumberCallee, renumber_same e]

theorem renumberAll_same (es : List Expr) : renumberAll (fun n => n) es = es := by
  match es with
  | [] => rfl
  | e :: r => rw [renumberAll, renumber_same e, renumberAll_same r]

end

end Expr

/-! ## Twins -/

section
variable (ρ : Renaming)

/-- Declarations that differ by other numbers, and in the order of implementations. -/
structure Declaration.Twin (d d' : Declaration) : Prop where
  id : d'.id = ρ.decl d.id
  path : d'.path = d.path
  kind : d'.kind = d.kind
  target : d'.target = d.target.map ρ.decl
  hasDefault : d'.hasDefault = d.hasDefault
  impls : ∀ ty, d'.impls.get? (ρ.type ty) = (d.impls.get? ty).map ρ.decl

/-- In the second crate, look-ups under other numbers find what they find in the first one, under
other numbers. -/
structure Crate.Twin (c c' : Crate) : Prop where
  kinds : ∀ ty, (c'.types.types.get? (ρ.type ty)).map (·.kind) = (c.types.types.get? ty).map (·.kind)
  nodeTypes : ∀ node, c'.types.nodeTypes.get? (ρ.node node) = (c.types.nodeTypes.get? node).map ρ.type
  declarations : ∀ decl,
    Option.Rel (Declaration.Twin ρ) (c.declarations.get? decl) (c'.declarations.get? (ρ.decl decl))
  denotations : ∀ node, c'.denotations.get? (ρ.node node) = (c.denotations.get? node).map ρ.use

/-- Answers that differ as `R` says, or by the numbers that a fault names. -/
inductive Twins {α β : Type} (R : α → β → Prop) : Except Malformed α → Except Malformed β → Prop
  | ok {a : α} {b : β} (h : R a b) : Twins R (.ok a) (.ok b)
  | error (fault : Malformed) : Twins R (.error fault) (.error (ρ.fault fault))

end

section
variable {ρ : Renaming} {α β γ δ : Type} {R : α → β → Prop} {S : γ → δ → Prop}

theorem Twins.bind {x : Except Malformed α} {y : Except Malformed β} {f : α → Except Malformed γ}
    {g : β → Except Malformed δ} (h : Twins ρ R x y) (hf : ∀ a b, R a b → Twins ρ S (f a) (g b)) :
    Twins ρ S (x >>= f) (y >>= g) := by
  cases h with
  | ok h => exact hf _ _ h
  | error fault => exact .error fault

theorem twins_eq {x y : Except Malformed α} (h : Twins ρ (· = ·) x y) : y = x.mapError ρ.fault := by
  cases h with
  | ok h => rw [h]; rfl
  | error fault => rfl

end

/-! ## Aliases, dispatch and shapes of twins -/

section
variable {ρ : Renaming} {c c' : Crate}

theorem Declaration.Twin.isAlias_eq {d d' : Declaration} (h : d.Twin ρ d') : d'.isAlias = d.isAlias := by
  rw [isAlias, h.kind, isAlias]

theorem Crate.Twin.missing (h : c.Twin ρ c') {id : Int} (entry : c.declarations.get? id = none) :
    c'.declarations.get? (ρ.decl id) = none := by
  have hd := h.declarations id
  rw [entry] at hd
  cases hd' : c'.declarations.get? (ρ.decl id) with
  | none => rfl
  | some d' =>
    rw [hd'] at hd
    cases hd

theorem Crate.Twin.exists_twin (h : c.Twin ρ c') {id : Int} {d : Declaration}
    (entry : c.declarations.get? id = some d) :
    ∃ d', c'.declarations.get? (ρ.decl id) = some d' ∧ d.Twin ρ d' := by
  have hd := h.declarations id
  rw [entry] at hd
  cases hd' : c'.declarations.get? (ρ.decl id) with
  | none =>
    rw [hd'] at hd
    cases hd
  | some d' =>
    rw [hd'] at hd
    cases hd with
    | some twin => exact ⟨d', rfl, twin⟩

/-- The search passes aliases that are twins, so it closes a cycle at the same alias. -/
theorem Crate.Twin.chase (h : c.Twin ρ c') (seen : List Int) (id : Int) :
    Twins ρ (Declaration.Twin ρ) (ChainLint.chase c.declarations seen id)
      (ChainLint.chase c'.declarations (seen.map ρ.decl) (ρ.decl id)) := by
  have mem : ∀ (seen : List Int) (i : Int), ρ.decl i ∈ seen.map ρ.decl ↔ i ∈ seen := fun seen i =>
    List.mem_map_of_injective ρ.decl_injective
  fun_induction ChainLint.chase c.declarations seen id with
  | case1 seen id entry =>
    rw [chase_of_chainEnd (.missing (h.missing entry))]
    exact .error _
  | case2 seen id a entry isAlias again =>
    obtain ⟨a', entry', twin⟩ := h.exists_twin entry
    have again' : a'.id ∈ seen.map ρ.decl := by
      rw [twin.id, mem]
      simpa using again
    rw [chase_of_chainEnd (.cycle entry' (twin.isAlias_eq.trans isAlias) again'), twin.path]
    exact .error _
  | case3 seen id a entry isAlias new target =>
    obtain ⟨a', entry', twin⟩ := h.exists_twin entry
    have new' : a'.id ∉ seen.map ρ.decl := by
      rw [twin.id, mem]
      simpa using new
    have target' : a'.target = none := by rw [twin.target, target, Option.map_none]
    rw [chase_of_chainEnd (.openAlias entry' (twin.isAlias_eq.trans isAlias) new' target'), twin.kind, twin.path]
    exact .error _
  | case4 seen id a entry isAlias new next target ih =>
    obtain ⟨a', entry', twin⟩ := h.exists_twin entry
    have new' : a'.id ∉ seen.map ρ.decl := by
      rw [twin.id, mem]
      simpa using new
    have target' : a'.target = some (ρ.decl next) := by rw [twin.target, target, Option.map_some]
    rw [chase_via entry' (twin.isAlias_eq.trans isAlias) new' target', twin.id]
    exact ih
  | case5 seen id d entry noAlias =>
    obtain ⟨d', entry', twin⟩ := h.exists_twin entry
    rw [chase_of_chainEnd (.found entry' (by rw [twin.isAlias_eq]; simpa using noAlias))]
    exact .ok twin

theorem Crate.Twin.declarationOf (h : c.Twin ρ c') (id : Int) :
    Twins ρ (Declaration.Twin ρ) (c.declarationOf id) (c'.declarationOf (ρ.decl id)) :=
  h.chase [] id

theorem Crate.Twin.lookup (h : c.Twin ρ c') (ty : Int) :
    Twins ρ (fun t t' => t'.kind = t.kind) (c.types.lookup ty) (c'.types.lookup (ρ.type ty)) := by
  have hk := h.kinds ty
  unfold TypeTable.lookup
  cases ht : c.types.types.get? ty with
  | none =>
    rw [ht, Option.map_none, Option.map_eq_none_iff] at hk
    rw [hk]
    exact .error _
  | some t =>
    rw [ht, Option.map_some, Option.map_eq_some_iff] at hk
    obtain ⟨t', ht', hkind⟩ := hk
    rw [ht']
    exact .ok hkind

theorem Crate.Twin.dispatch (h : c.Twin ρ c') {d d' : Declaration} (hd : d.Twin ρ d') (self : Option Int) :
    Twins ρ (Option.Rel (Declaration.Twin ρ)) (c.dispatch d self) (c'.dispatch d' (self.map ρ.type)) := by
  cases self with
  | none => exact .ok .none
  | some ty =>
    refine (h.lookup ty).bind fun t t' hkind => ?_
    rw [hkind]
    split
    · exact .ok .none
    · rw [hd.impls]
      cases d.impls.get? ty with
      | none =>
        simp only [Option.map_none, hd.hasDefault]
        refine .ok ?_
        split
        · exact .some hd
        · exact .none
      | some impl =>
        simp only [Option.map_some, ← bind_pure_comp]
        exact (h.declarationOf impl).bind fun i i' hi => .ok (.some hi)

/-- A callee under other numbers has the same identity, or none, or meets the same contradiction. -/
theorem Crate.Twin.resolve (h : c.Twin ρ c') (callee : Option Expr) :
    c'.resolve (callee.map (Expr.renumber ρ.node)) = (c.resolve callee).mapError ρ.fault := by
  refine twins_eq ?_
  cases callee with
  | none => exact .ok rfl
  | some e =>
    simp only [Crate.resolve, Option.map_some, Expr.renumber_kind, Expr.renumber_id, h.denotations]
    split
    · exact .ok rfl
    · cases c.denotations.get? e.id with
      | none => exact .ok rfl
      | some use =>
        obtain ⟨decl, isLocal, selfType, genericArgs⟩ := use
        cases isLocal with
        | true => exact .ok rfl
        | false =>
          cases decl with
          | none => exact .ok rfl
          | some id =>
            refine (h.declarationOf id).bind fun d d' hd => ?_
            simp only [hd.kind]
            split
            · refine (h.dispatch hd selfType).bind fun i i' hi => .ok ?_
              cases hi with
              | none => rfl
              | some hi => simp only [Option.map_some, hi.path]
            · exact .ok (by rw [hd.path])

/-- A node under another number has the same shape, or meets the same contradiction. -/
theorem Crate.Twin.shapeOf (h : c.Twin ρ c') (node : Int) :
    c'.types.shapeOf (ρ.node node) = (c.types.shapeOf node).mapError ρ.fault := by
  unfold TypeTable.shapeOf TypeTable.ofNode
  rw [h.nodeTypes]
  cases c.types.nodeTypes.get? node with
  | none => rfl
  | some ty =>
    have hk := h.kinds ty
    cases ht : c.types.types.get? ty with
    | none =>
      rw [ht, Option.map_none, Option.map_eq_none_iff] at hk
      simp only [Option.map_some, hk, ht]
      rfl
    | some t =>
      rw [ht, Option.map_some, Option.map_eq_some_iff] at hk
      obtain ⟨t', ht', hkind⟩ := hk
      simp only [Option.map_some, ht', ht]
      exact congrArg (fun kind => Except.ok (Shape.ofKind kind)) hkind

end

/-! ## The twin under other numbers -/

/-- A table under other keys has under another key what it has under the key. -/
theorem Table.get?_mapEntries {α β : Type} {f : Int → Int} (hf : Function.Injective f) (g : α → β)
    (t : Table Int α) (k : Int) : (t.mapEntries f g).get? (f k) = (t.get? k).map g := by
  obtain ⟨entries⟩ := t
  unfold mapEntries get?
  induction entries with
  | nil => rfl
  | cons e rest ih =>
    obtain ⟨a, b⟩ := e
    simp only [List.map_cons, find?, hf.eq_iff]
    split
    · rfl
    · exact ih

theorem Renaming.twin_declaration (ρ : Renaming) (d : Declaration) : d.Twin ρ (ρ.declaration d) where
  id := rfl
  path := rfl
  kind := rfl
  target := rfl
  hasDefault := rfl
  impls := Table.get?_mapEntries ρ.type_injective ρ.decl d.impls

theorem Renaming.twin_crate (ρ : Renaming) (c : Crate) : c.Twin ρ (ρ.crate c) where
  kinds ty := by
    have ht : (ρ.crate c).types.types = c.types.types.mapEntries ρ.type ρ.typeEntry := rfl
    rw [ht, Table.get?_mapEntries ρ.type_injective, Option.map_map]
    rfl
  nodeTypes := Table.get?_mapEntries ρ.node_injective ρ.type c.types.nodeTypes
  declarations decl := by
    have hd : (ρ.crate c).declarations = c.declarations.mapEntries ρ.decl ρ.declaration := rfl
    rw [hd, Table.get?_mapEntries ρ.decl_injective]
    cases c.declarations.get? decl with
    | none => exact .none
    | some d => exact .some (ρ.twin_declaration d)
  denotations := Table.get?_mapEntries ρ.node_injective ρ.use c.denotations

end ChainLint
