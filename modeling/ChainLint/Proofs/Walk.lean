import ChainLint.Tree.Crate
/-!
# The walk visits a tree in document order

`walk_eq_preorder`: the walk with a stack yields the preorder. The invariant is
on the whole stack: what is still to come is the preorders of the stacked
trees, one after the other.
-/

namespace ChainLint.Expr

theorem preorder_eq (e : Expr) : e.preorder = e :: e.parts.flatMap preorder := by
  rw [preorder]
  congr 1
  rw [List.flatMap_subtype (g := preorder) (by simp), List.unattach_attach]

theorem walkFrom_eq_flatMap (stack : List Expr) : walkFrom stack = stack.flatMap preorder := by
  fun_induction walkFrom stack with
  | case1 => rfl
  | case2 e stack ih => rw [ih, List.flatMap_append, List.flatMap_cons, preorder_eq e, List.cons_append]

theorem walk_eq_preorder (e : Expr) : e.walk = e.preorder := by
  simp [walk, walkFrom_eq_flatMap]

/-! ## The nodes of a tree -/

theorem self_mem_preorder (e : Expr) : e ∈ e.preorder := by
  rw [preorder_eq]; exact List.mem_cons_self

theorem part_mem_preorder {e p : Expr} (h : p ∈ e.parts) : p ∈ e.preorder := by
  rw [preorder_eq]
  exact List.mem_cons_of_mem _ (List.mem_flatMap.2 ⟨p, h, self_mem_preorder p⟩)

/-- Below a node of a tree there is nothing but nodes of the tree. -/
theorem preorder_trans {root e p : Expr} (he : e ∈ root.preorder) (hp : p ∈ e.preorder) :
    p ∈ root.preorder := by
  rw [preorder_eq] at he ⊢
  rcases List.mem_cons.1 he with rfl | he
  · rwa [preorder_eq] at hp
  · obtain ⟨part, hm, he⟩ := List.mem_flatMap.1 he
    exact List.mem_cons_of_mem _ (List.mem_flatMap.2 ⟨part, hm, preorder_trans he hp⟩)
termination_by sizeOf root
decreasing_by exact sizeOf_part hm

theorem callee_mem_preorder {root e c : Expr} (he : e ∈ root.preorder) (hc : e.callee = some c) :
    c ∈ root.preorder :=
  preorder_trans he (part_mem_preorder (by simp [parts, hc]))

/-- The numbers of the nodes of a tree, in document order. -/
def ids (e : Expr) : List Int := e.preorder.map (·.id)

theorem ids_eq (e : Expr) : e.ids = e.id :: e.parts.flatMap ids := by
  unfold ids
  rw [preorder_eq e, List.map_cons, List.map_flatMap]

theorem id_mem_ids {root e : Expr} (h : e ∈ root.preorder) : e.id ∈ root.ids :=
  List.mem_map.2 ⟨e, h, rfl⟩

end ChainLint.Expr
