import ChainLint.Proofs.Walk
import Mathlib.Data.List.Induction
import Mathlib.Data.List.Nodup
/-!
# The walk visits every occurrence of a node once

One node may occur at several places of a tree, so what a walk visits are
occurrences: nodes with the places where they stand. `Yields` is the walk as a
loop over a stack of them. `yields_iff`: the loop ends, and yields the preorders
of what is on the stack, the top first. In the preorder of a tree every
occurrence stands once (`nodup_preorder`, `mem_preorder`), and what is below a
node stands together (`exists_preorder_append`).
-/

namespace ChainLint

/-- A node where it stands in a tree: which part to take at each node on the way to it. -/
structure Occurrence where
  place : List Nat
  node : Expr
deriving DecidableEq

namespace Expr

/-- The node at a place. -/
def nodeAt? (e : Expr) : List Nat → Option Expr
  | [] => some e
  | i :: rest => e.parts[i]?.bind fun p => p.nodeAt? rest

theorem nodeAt?_append (e : Expr) (p q : List Nat) :
    e.nodeAt? (p ++ q) = (e.nodeAt? p).bind fun x => x.nodeAt? q := by
  induction p generalizing e with
  | nil => rfl
  | cons i rest ih =>
    rw [List.cons_append, nodeAt?, nodeAt?, Option.bind_assoc]
    exact Option.bind_congr fun x _ => ih x

end Expr

namespace Occurrence

/-- What stands right below, in document order. -/
def parts (o : Occurrence) : List Occurrence := o.node.parts.zipIdx.map fun p => ⟨o.place ++ [p.2], p.1⟩

theorem mem_parts {o x : Occurrence} :
    x ∈ o.parts ↔ ∃ i, o.node.parts[i]? = some x.node ∧ x.place = o.place ++ [i] := by
  rw [parts, List.mem_map]
  constructor
  · rintro ⟨⟨p, i⟩, hp, rfl⟩
    exact ⟨i, List.mem_zipIdx_iff_getElem?.1 hp, rfl⟩
  · rintro ⟨i, hi, place⟩
    exact ⟨(x.node, i), List.mem_zipIdx_iff_getElem?.2 hi, by rw [← place]⟩

/-- No two parts of a node stand at one place. -/
theorem pairwise_parts (o : Occurrence) : o.parts.Pairwise fun x y => x.place ≠ y.place := by
  have distinct : (o.node.parts.zipIdx.map (·.2)).Nodup := by
    rw [List.zipIdx_map_snd]
    exact List.nodup_range'
  rw [parts, List.pairwise_map]
  refine (List.pairwise_map.1 distinct).imp fun differ same => differ ?_
  simpa using same

theorem nodes_parts (o : Occurrence) : o.parts.map (·.node) = o.node.parts := by
  rw [parts, List.map_map]
  exact List.zipIdx_map_fst 0 o.node.parts

theorem sizeOf_part {o p : Occurrence} (h : p ∈ o.parts) : sizeOf p.node < sizeOf o.node := by
  obtain ⟨i, hi, -⟩ := mem_parts.1 h
  exact Expr.sizeOf_part (List.mem_of_getElem? hi)

/-- An occurrence, then what stands below it, part by part. -/
def preorder (o : Occurrence) : List Occurrence :=
  o :: o.parts.attach.flatMap fun p => preorder p.1
termination_by sizeOf o.node
decreasing_by exact sizeOf_part p.2

theorem preorder_eq (o : Occurrence) : o.preorder = o :: o.parts.flatMap preorder := by
  rw [preorder]
  congr 1
  rw [List.flatMap_subtype (g := preorder) (by simp), List.unattach_attach]

/-- The walk as a loop: the last on the stack is taken off and yielded, and its parts are put on the
stack, the last part first, until nothing is left. -/
inductive Yields : List Occurrence → List Occurrence → Prop
  | done : Yields [] []
  | visit {below later : List Occurrence} (o : Occurrence) (rest : Yields (below ++ o.parts.reverse) later) :
      Yields (below ++ [o]) (o :: later)

/-! ## The loop and the recursion -/

theorem eq_of_yields {stack out : List Occurrence} (h : Yields stack out) :
    out = stack.reverse.flatMap preorder := by
  induction h with
  | done => rfl
  | visit o _ ih => simp [ih, preorder_eq o]

/-- On top of a stack an occurrence yields its preorder before anything else. -/
theorem Yields.push {below later : List Occurrence} (h : Yields below later) (o : Occurrence) :
    Yields (below ++ [o]) (o.preorder ++ later) := by
  rw [preorder_eq]
  refine .visit o ?_
  -- the parts are put on one by one, from the last
  have parts : ∀ ps ⊆ o.parts, Yields (below ++ ps.reverse) (ps.flatMap preorder ++ later) := by
    intro ps sub
    induction ps with
    | nil => simpa using h
    | cons p rest ih =>
      obtain ⟨hp, hrest⟩ := List.cons_subset.1 sub
      rw [List.reverse_cons, ← List.append_assoc, List.flatMap_cons, List.append_assoc _ _ later]
      exact (ih hrest).push p
  exact parts _ (List.Subset.refl _)
termination_by sizeOf o.node
decreasing_by exact sizeOf_part hp

theorem yields_iff {stack out : List Occurrence} :
    Yields stack out ↔ out = stack.reverse.flatMap preorder := by
  constructor
  · exact eq_of_yields
  · rintro rfl
    induction stack using List.reverseRecOn with
    | nil => exact .done
    | append_singleton below o ih => simpa using ih.push o

/-- Without the places it is the preorder of the node. -/
theorem nodes_preorder (o : Occurrence) : o.preorder.map (·.node) = o.node.preorder := by
  rw [preorder_eq, Expr.preorder_eq, ← nodes_parts, List.map_cons, List.map_flatMap, List.flatMap_map]
  congr 1
  exact List.flatMap_congr fun p hp => nodes_preorder p
termination_by sizeOf o.node
decreasing_by exact sizeOf_part hp

/-! ## What stands in a preorder -/

/-- An occurrence stands in the preorder if and only if its node is found at its place. -/
theorem mem_preorder {o x : Occurrence} :
    x ∈ o.preorder ↔ ∃ p, x.place = o.place ++ p ∧ o.node.nodeAt? p = some x.node := by
  rw [preorder_eq, List.mem_cons, List.mem_flatMap]
  constructor
  · rintro (rfl | ⟨part, hp, hx⟩)
    · exact ⟨[], by simp, rfl⟩
    · obtain ⟨i, hi, place⟩ := mem_parts.1 hp
      obtain ⟨p, below, found⟩ := mem_preorder.1 hx
      refine ⟨i :: p, by rw [below, place, List.append_assoc]; rfl, ?_⟩
      rw [Expr.nodeAt?, hi]
      exact found
  · rintro ⟨_ | ⟨i, p⟩, place, found⟩
    · obtain ⟨place', node⟩ := x
      cases found
      cases place
      exact .inl (congrArg (mk · o.node) (List.append_nil o.place))
    · obtain ⟨part, hi, found⟩ := Option.bind_eq_some_iff.1 found
      have hp : ⟨o.place ++ [i], part⟩ ∈ o.parts := mem_parts.2 ⟨i, hi, rfl⟩
      exact .inr ⟨_, hp, mem_preorder.2 ⟨p, by rw [place, List.append_assoc]; rfl, found⟩⟩
termination_by sizeOf o.node
decreasing_by
  all_goals exact sizeOf_part hp

theorem nodup_preorder (o : Occurrence) : o.preorder.Nodup := by
  rw [preorder_eq, List.nodup_cons, List.nodup_flatMap]
  refine ⟨fun again => ?_, fun p hp => nodup_preorder p, ?_⟩
  · -- what stands below has a longer place
    obtain ⟨p, hp, hx⟩ := List.mem_flatMap.1 again
    obtain ⟨i, -, place⟩ := mem_parts.1 hp
    obtain ⟨q, same, -⟩ := mem_preorder.1 hx
    rw [place] at same
    have := congrArg List.length same
    simp at this
  · refine o.pairwise_parts.imp_of_mem fun {p q} hp hq differ x hx hx' => differ ?_
    obtain ⟨i, -, place⟩ := mem_parts.1 hp
    obtain ⟨j, -, place'⟩ := mem_parts.1 hq
    obtain ⟨r, below, -⟩ := mem_preorder.1 hx
    obtain ⟨r', below', -⟩ := mem_preorder.1 hx'
    rw [below, place, place', List.append_assoc, List.append_assoc] at below'
    obtain ⟨rfl, -⟩ := List.cons.inj (List.append_cancel_left below')
    rw [place, place']
termination_by sizeOf o.node
decreasing_by exact sizeOf_part hp

/-- What stands at or below an occurrence stands together. -/
theorem exists_preorder_append {o x : Occurrence} (h : x ∈ o.preorder) :
    ∃ before after, o.preorder = before ++ x.preorder ++ after := by
  rw [preorder_eq, List.mem_cons, List.mem_flatMap] at h
  rcases h with rfl | ⟨p, hp, hx⟩
  · exact ⟨[], [], by simp⟩
  · obtain ⟨before, after, inside⟩ := exists_preorder_append hx
    obtain ⟨left, right, parts⟩ := List.append_of_mem hp
    refine ⟨o :: left.flatMap preorder ++ before, after ++ right.flatMap preorder, ?_⟩
    rw [preorder_eq, parts, List.flatMap_append, List.flatMap_cons, inside]
    simp
termination_by sizeOf o.node
decreasing_by exact sizeOf_part hp

/-- What stands below an occurrence is what has a place below it. -/
theorem mem_preorder_iff_prefix {o x y : Occurrence} (hx : x ∈ o.preorder) (hy : y ∈ o.preorder) :
    y ∈ x.preorder ↔ x.place <+: y.place := by
  constructor
  · intro h
    obtain ⟨p, place, -⟩ := mem_preorder.1 h
    exact ⟨p, place.symm⟩
  · rintro ⟨p, place⟩
    obtain ⟨q, hq, found⟩ := mem_preorder.1 hx
    obtain ⟨q', hq', found'⟩ := mem_preorder.1 hy
    have whole : q' = q ++ p := by
      rw [← place, hq, List.append_assoc] at hq'
      exact (List.append_cancel_left hq').symm
    rw [whole, Expr.nodeAt?_append, found] at found'
    exact mem_preorder.2 ⟨p, place.symm, found'⟩

end Occurrence

namespace Expr

/-- The occurrences in a tree, in document order. -/
def occurrences (e : Expr) : List Occurrence := Occurrence.preorder ⟨[], e⟩

theorem count_occurrences (e : Expr) (o : Occurrence) :
    e.occurrences.count o = if e.nodeAt? o.place = some o.node then 1 else 0 := by
  rw [occurrences, (Occurrence.nodup_preorder _).count]
  simp [Occurrence.mem_preorder]

/-- The walk of a tree ends, and what it yields is the node followed by the preorders of its callee,
of each argument and of each other child. Every occurrence of a node in the tree is yielded once and
nothing else is, and what stands at or below an occurrence is yielded together, in the order in
which the walk of that node alone yields it. -/
theorem walk_visits_once (e : Expr) :
    (∀ out, Occurrence.Yields [⟨[], e⟩] out ↔ out = e.occurrences) ∧
    e.occurrences.map (·.node) = e.walk ∧ e.walk = e.preorder ∧
    (∀ x : Expr, x.preorder = x :: (x.callee.toList.flatMap preorder ++ x.args.flatMap preorder ++
      x.children.flatMap preorder)) ∧
    (∀ o, e.occurrences.count o = if e.nodeAt? o.place = some o.node then 1 else 0) ∧
    ∀ o ∈ e.occurrences, ∃ before block after, e.occurrences = before ++ block ++ after ∧
      block.map (·.node) = o.node.walk ∧ ∀ x ∈ e.occurrences, x ∈ block ↔ o.place <+: x.place := by
  refine ⟨fun out => ?_, ?_, e.walk_eq_preorder, fun x => ?_, e.count_occurrences, fun o ho => ?_⟩
  · rw [Occurrence.yields_iff]
    simp [occurrences]
  · rw [walk_eq_preorder]
    exact Occurrence.nodes_preorder _
  · rw [preorder_eq, parts, List.flatMap_append, List.flatMap_append]
  · obtain ⟨before, after, h⟩ := Occurrence.exists_preorder_append ho
    refine ⟨before, o.preorder, after, h, ?_, fun x hx => Occurrence.mem_preorder_iff_prefix ho hx⟩
    rw [walk_eq_preorder]
    exact Occurrence.nodes_preorder o

/-- A call of a path with one literal as both arguments. -/
def repeatedArgument : Expr where
  id := 1
  kind := "Call"
  callee := some { id := 2, kind := "Path" }
  args := [{ id := 3, kind := "Lit" }, { id := 3, kind := "Lit" }]

/-- The literal is visited at both of its places, once at each. -/
theorem repeated_visited_once : ∃ o ∈ repeatedArgument.occurrences, o.place = [2] ∧
    repeatedArgument.occurrences.count o = 1 ∧
    repeatedArgument.occurrences.count { o with place := [1] } = 1 ∧
    ∃ before block after, repeatedArgument.occurrences = before ++ block ++ after ∧
      block.map (·.node) = o.node.walk ∧ ∀ x ∈ repeatedArgument.occurrences, x ∈ block ↔ [2] <+: x.place := by
  obtain ⟨-, -, -, -, count, together⟩ := repeatedArgument.walk_visits_once
  have second := (count ⟨[2], { id := 3, kind := "Lit" }⟩).trans (if_pos rfl)
  have first := (count ⟨[1], { id := 3, kind := "Lit" }⟩).trans (if_pos rfl)
  have listed := List.count_pos_iff.1 (second ▸ Nat.one_pos)
  exact ⟨_, listed, rfl, second, first, together _ listed⟩

end Expr

end ChainLint
