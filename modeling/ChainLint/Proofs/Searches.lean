import ChainLint.Proofs.GuardFaults
/-!
# The searches of an expression

Evaluating an expression comes to some tests whether a value is in another, and
passes others by. `searches` lists the ones it comes to, in order.
`eval_noByte_iff`: an expression has no value for want of a byte if and only if
one of its searches asks for a number that is none.
-/

namespace ChainLint.Guard

/-- What follows a value, if there is one. -/
def after {α β : Type} (x : Except Fault α) (next : α → List β) : List β :=
  match x with
  | .ok a => next a
  | .error _ => []

/-- The search that a comparison makes, if it makes one. -/
def Comparison.searches (op : Comparison) (a b : Value) : List (Value × Value) :=
  if op = .mem ∨ op = .notMem then [(a, b)] else []

mutual

/-- The searches that the evaluation of an expression makes: what is looked for, and where. -/
def searches (scope : Scope) : Term → List (Value × Value)
  | .literal _ | .name _ | .unsupported _ => []
  | .both terms => searchesBoth scope terms
  | .either terms => searchesEither scope terms
  | .unary op operand =>
    match op with
    | .not | .minus => searches scope operand
    | _ => []
  | .compare first links =>
    searches scope first ++ after (eval scope first) fun left => searchesChain scope left links
  | .choice test body other =>
    searches scope test ++ after (eval scope test) fun v =>
      if v.isTruthy then searches scope body else searches scope other
  | .attribute object name => if isPrivate name then [] else searches scope object
  | .call callee args hasKeywords =>
    match builtin? callee with
    | none => []
    | some _ => if hasKeywords then [] else searchesAll scope args
  | .item object index =>
    searches scope object ++ after (eval scope object) fun _ => searches scope index
  | .list items | .tuple items => searchesAll scope items

/-- The searches of expressions, in order. -/
def searchesAll (scope : Scope) : List Term → List (Value × Value)
  | [] => []
  | t :: r => searches scope t ++ after (eval scope t) fun _ => searchesAll scope r

/-- The searches of expressions up to the first that does not hold. -/
def searchesBoth (scope : Scope) : List Term → List (Value × Value)
  | [] => []
  | t :: r => searches scope t ++ after (eval scope t) fun v => if v.isTruthy then searchesBoth scope r else []

/-- The searches of expressions up to the first that holds. -/
def searchesEither (scope : Scope) : List Term → List (Value × Value)
  | [] => []
  | t :: r => searches scope t ++ after (eval scope t) fun v => if v.isTruthy then [] else searchesEither scope r

/-- The searches of a chain: those of each operand, then that of its comparison. -/
def searchesChain (scope : Scope) (left : Value) : List (Comparison × Term) → List (Value × Value)
  | [] => []
  | (op, t) :: r =>
    searches scope t ++ after (eval scope t) fun right =>
      op.searches left right ++ after (op.apply left right) fun holds =>
        if holds then searchesChain scope right r else []

end

/-! ## Which search is to blame -/

/-- There is no value for want of a byte if and only if one of the searches asks for a number that
is none. -/
def Blames {α : Type} (x : Except Fault α) (l : List (Value × Value)) : Prop :=
  x = .error .noByte ↔ ∃ p ∈ l, AsksNoByte p.1 p.2

section
variable {α β : Type} {x : Except Fault α} {l : List (Value × Value)}

theorem blames_ok (a : α) : Blames (.ok a) [] := by
  simp [Blames]

theorem blames_caught {fault : Fault} (h : fault.isCaught = true) : Blames (.error fault : Except Fault α) [] := by
  have hf : fault ≠ .noByte := by
    rintro rfl
    cases h
  simp [Blames, hf]

theorem Answers.blames {P : α → Prop} (h : Answers True P x) : Blames x [] := by
  cases x with
  | ok a => exact blames_ok a
  | error fault =>
    rcases h with h | ⟨h, -⟩
    · exact blames_caught h
    · exact absurd trivial h

theorem Blames.map (h : Blames x l) (f : α → β) : Blames (f <$> x) l :=
  map_eq_error_iff.trans h

/-- What comes after a value is to blame only if nothing before it is. -/
theorem Blames.bind {g : α → Except Fault β} {m : α → List (Value × Value)} (h : Blames x l)
    (hg : ∀ a, Blames (g a) (m a)) : Blames (x >>= g) (l ++ after x m) := by
  cases x with
  | ok a =>
    have hl : ¬∃ p ∈ l, AsksNoByte p.1 p.2 := fun hp => nomatch h.2 hp
    have hm : (∃ p ∈ l ++ m a, AsksNoByte p.1 p.2) ↔ ∃ p ∈ m a, AsksNoByte p.1 p.2 := by
      simp only [List.mem_append, or_and_right, exists_or, hl, false_or]
    exact (hg a).trans hm.symm
  | error fault =>
    have he : ((.error fault : Except Fault α) >>= g) = .error .noByte ↔
        (.error fault : Except Fault α) = .error .noByte :=
      ⟨fun he => by cases he; rfl, fun he => by cases he; rfl⟩
    rw [after, List.append_nil]
    exact he.trans h

/-- A step that makes no search leaves the blame where it was. -/
theorem Blames.then {g : α → Except Fault β} (h : Blames x l) (hg : ∀ a, Blames (g a) []) :
    Blames (x >>= g) l := by
  have hl : l ++ after x (fun _ => []) = l := by
    cases x <;> exact List.append_nil l
  have hb := h.bind hg
  rwa [hl] at hb

end

theorem blames_apply (op : Comparison) (a b : Value) : Blames (op.apply a b) (op.searches a b) := by
  have h : op.apply a b = .error .noByte ↔ (op = .mem ∨ op = .notMem) ∧ AsksNoByte a b :=
    ⟨fun he => (apply_uncaught_iff.1 ⟨he, rfl⟩).2, fun hs => (apply_uncaught_iff.2 ⟨rfl, hs⟩).1⟩
  refine h.trans ?_
  unfold Comparison.searches
  split <;> simp [*]

theorem blames_itemAt (v index : Value) : Blames (v.itemAt index) [] :=
  Answers.blames <|
    answers_itemAt (P := fun _ => True) (fun _ _ _ _ => trivial) (fun _ _ _ _ _ => trivial) index

section
variable {scope : Scope}

mutual

theorem blames_eval (t : Term) : Blames (eval scope t) (searches scope t) := by
  -- each case goes along with the evaluation; the steps after the first fault make no search
  match t with
  | .literal l =>
    rw [eval, searches]
    exact blames_ok _
  | .name id =>
    rw [searches]
    exact (answers_name (P := fun _ => True) (fun _ _ => trivial) id).blames
  | .both terms =>
    rw [eval, searches]
    exact (blames_both terms).map _
  | .either terms =>
    rw [eval, searches]
    exact (blames_either terms).map _
  | .unary .not operand =>
    rw [eval, searches]
    exact (blames_eval operand).then fun v => blames_ok _
  | .unary .minus operand =>
    rw [eval, searches]
    exact (blames_eval operand).then fun v => (answers_negate v).blames
  | .unary .plus operand =>
    exact blames_caught rfl
  | .unary .invert operand =>
    exact blames_caught rfl
  | .compare first links =>
    rw [eval, searches]
    exact (blames_eval first).bind fun left => (blames_chain left links).map _
  | .choice test body other =>
    rw [eval, searches]
    refine (blames_eval test).bind fun v => ?_
    split
    · exact blames_eval body
    · exact blames_eval other
  | .attribute object name =>
    rw [eval, searches]
    split
    · exact blames_caught rfl
    · exact (blames_eval object).then fun v => (answers_attribute v name).blames
  | .call callee args hasKeywords =>
    rw [eval, searches]
    cases builtin? callee with
    | none => exact blames_caught rfl
    | some f =>
      cases hasKeywords with
      | true => exact blames_caught rfl
      | false => exact (blames_all args).then fun vs => (answers_builtin f vs).blames
  | .item object index =>
    rw [eval, searches]
    refine (blames_eval object).bind fun v => ?_
    exact (blames_eval index).then (blames_itemAt v)
  | .list items =>
    rw [eval, searches]
    exact (blames_all items).then fun vs => blames_ok _
  | .tuple items =>
    rw [eval, searches]
    exact (blames_all items).then fun vs => blames_ok _
  | .unsupported kind =>
    rw [eval, searches]
    exact blames_caught rfl

theorem blames_all (ts : List Term) : Blames (evalAll scope ts) (searchesAll scope ts) := by
  match ts with
  | [] => exact blames_ok _
  | t :: r =>
    rw [evalAll, searchesAll]
    refine (blames_eval t).bind fun v => ?_
    exact (blames_all r).then fun vs => blames_ok _

theorem blames_both (ts : List Term) : Blames (evalBoth scope ts) (searchesBoth scope ts) := by
  match ts with
  | [] => exact blames_ok _
  | t :: r =>
    rw [evalBoth, searchesBoth]
    refine (blames_eval t).bind fun v => ?_
    split
    · exact blames_both r
    · exact blames_ok _

theorem blames_either (ts : List Term) : Blames (evalEither scope ts) (searchesEither scope ts) := by
  match ts with
  | [] => exact blames_ok _
  | t :: r =>
    rw [evalEither, searchesEither]
    refine (blames_eval t).bind fun v => ?_
    split
    · exact blames_ok _
    · exact blames_either r

theorem blames_chain (left : Value) (links : List (Comparison × Term)) :
    Blames (evalChain scope left links) (searchesChain scope left links) := by
  match links with
  | [] => exact blames_ok _
  | (op, t) :: r =>
    rw [evalChain, searchesChain]
    refine (blames_eval t).bind fun right => ?_
    refine (blames_apply op left right).bind fun holds => ?_
    split
    · exact blames_chain right r
    · exact blames_ok _

end

/-- An expression has no value for want of a byte if and only if one of its searches asks for a
number that is none. -/
theorem eval_noByte_iff {t : Term} :
    eval scope t = .error .noByte ↔ ∃ p ∈ searches scope t, AsksNoByte p.1 p.2 :=
  blames_eval t

end

end ChainLint.Guard
