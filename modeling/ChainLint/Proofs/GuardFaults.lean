import ChainLint.Guard.Eval
import Mathlib.Data.List.Basic
/-!
# How an expression can fail

A guard whose expression has no value counts as a guard that does not hold,
with one exception: a number that is no byte was looked for among bytes
(`apply_uncaught_iff` for one comparison, `eval_uncaught` for an expression).
Bytes come from literals only, so an expression without such literals, in a
scope without bytes, never fails like that (`isCaught_of_byteless`).
-/

namespace ChainLint.Guard

/-! ## Without bytes -/

mutual

/-- Whether an expression evaluates no literal of bytes. -/
def Term.isByteless : Term → Bool
  | .literal (.bytes _) => false
  | .literal _ | .name _ | .unsupported _ => true
  | .both terms | .either terms | .list terms | .tuple terms => Term.allByteless terms
  | .unary _ t | .attribute t _ => t.isByteless
  | .compare first links => first.isByteless && Term.linksByteless links
  | .choice test body other => test.isByteless && body.isByteless && other.isByteless
  | .call _ args _ => Term.allByteless args
  | .item object index => object.isByteless && index.isByteless

/-- Whether no expression evaluates a literal of bytes. -/
def Term.allByteless : List Term → Bool
  | [] => true
  | t :: r => t.isByteless && Term.allByteless r

/-- Whether no operand of a chain evaluates a literal of bytes. -/
def Term.linksByteless : List (Comparison × Term) → Bool
  | [] => true
  | (_, t) :: r => t.isByteless && Term.linksByteless r

end

mutual

/-- Whether a value neither is bytes nor has bytes among its items. -/
def Value.isByteless : Value → Bool
  | .bytes .. => false
  | .list items _ | .tuple items _ => Value.allByteless items
  | .dict entries _ => Value.entriesByteless entries
  | _ => true

/-- Whether no value has bytes. -/
def Value.allByteless : List Value → Bool
  | [] => true
  | v :: r => v.isByteless && Value.allByteless r

/-- Whether neither keys nor values have bytes. -/
def Value.entriesByteless : List (Value × Value) → Bool
  | [] => true
  | (k, v) :: r => k.isByteless && v.isByteless && Value.entriesByteless r

end

theorem Value.allByteless_iff {vs : List Value} :
    Value.allByteless vs = true ↔ ∀ v ∈ vs, v.isByteless = true := by
  induction vs with
  | nil => simp [allByteless]
  | cons v r ih => simp [allByteless, ih]

theorem Value.entriesByteless_iff {es : List (Value × Value)} :
    Value.entriesByteless es = true ↔ ∀ e ∈ es, e.1.isByteless = true ∧ e.2.isByteless = true := by
  induction es with
  | nil => simp [entriesByteless]
  | cons e r ih =>
    obtain ⟨k, v⟩ := e
    simp [entriesByteless, ih]

/-! ## Parts of values without bytes -/

theorem isByteless_optText (place : Place) (s : Option String) : (optText place s).isByteless = true := by
  cases s <;> rfl

/-- The values of a list that all come from a function without bytes. -/
theorem allByteless_map {α : Type} (l : List α) {f : α → Value} (h : ∀ a, (f a).isByteless = true) :
    Value.allByteless (l.map f) = true := by
  rw [Value.allByteless_iff]
  intro v hv
  obtain ⟨a, -, rfl⟩ := List.mem_map.1 hv
  exact h a

theorem allByteless_mapIdx {α : Type} (l : List α) {f : Nat → α → Value}
    (h : ∀ i a, (f i a).isByteless = true) : Value.allByteless (l.mapIdx f) = true := by
  rw [Value.allByteless_iff]
  intro v hv
  obtain ⟨i, hi, rfl⟩ := List.mem_mapIdx.1 hv
  exact h _ _

theorem isByteless_nodeField {e : Expr} {name : String} {v : Value} (h : nodeField? e name = some v) :
    v.isByteless = true := by
  unfold nodeField? at h
  dsimp only at h
  split at h <;> cases h
  · rfl
  · rfl
  · cases e.span <;> rfl
  · cases e.callee <;> rfl
  · exact allByteless_map _ fun _ => rfl
  · exact allByteless_map _ fun _ => rfl
  · exact isByteless_optText _ _
  · exact allByteless_mapIdx _ fun _ _ => rfl
  · exact isByteless_optText _ _

theorem isByteless_spanField {s : Span} {owner : Int} {name : String} {v : Value}
    (h : spanField? s owner name = some v) : v.isByteless = true := by
  unfold spanField? at h
  dsimp only at h
  split at h <;> cases h <;> rfl

theorem isByteless_unitField {u : CodeUnit} {name : String} {v : Value} (h : unitField? u name = some v) :
    v.isByteless = true := by
  unfold unitField? at h
  split at h <;> cases h <;> rfl

theorem isByteless_symbolField {p : SymbolPath} {name : String} {v : Value}
    (h : symbolField? p name = some v) : v.isByteless = true := by
  unfold symbolField? at h
  dsimp only at h
  split at h <;> cases h
  exact allByteless_mapIdx _ fun _ _ => rfl

theorem isByteless_shapeField {s : Shape} {name : String} {v : Value} (h : shapeField? s name = some v) :
    v.isByteless = true := by
  unfold shapeField? at h
  split at h
  · cases h
    rfl
  · cases h
    rfl
  · obtain ⟨t, -, rfl⟩ := Option.map_eq_some_iff.1 h
    rfl

theorem isByteless_intField {n : Int} {place : Place} {name : String} {v : Value}
    (h : intField? n place name = some v) : v.isByteless = true := by
  unfold intField? at h
  split at h <;> cases h <;> rfl

theorem isByteless_complexField {re im : Binary64} {place : Place} {name : String} {v : Value}
    (h : complexField? re im place name = some v) : v.isByteless = true := by
  unfold complexField? at h
  split at h <;> cases h <;> rfl

/-- No field of any value has bytes. -/
theorem isByteless_field {v w : Value} {name : String} (h : (v.fieldOrMethods name).1 = some w) :
    w.isByteless = true := by
  cases v with
  | bool b => exact isByteless_intField h
  | int n place => exact isByteless_intField h
  | float x place => exact isByteless_complexField h
  | complex re im place => exact isByteless_complexField h
  | node e => exact isByteless_nodeField h
  | span s owner => exact isByteless_spanField h
  | unit u => exact isByteless_unitField h
  | symbol p => exact isByteless_symbolField h
  | shape s => exact isByteless_shapeField h
  | _ => cases h

/-! ## Answers of operations -/

section
variable {strict : Prop}

/-- A value that satisfies `P`, or a fault that counts as not holding. If the answer is not `strict`,
it may also be that a number is no byte. -/
def Answers (strict : Prop) {α : Type} (P : α → Prop) : Except Fault α → Prop
  | .ok a => P a
  | .error fault => fault.isCaught = true ∨ (¬strict ∧ fault = .noByte)

section
variable {α β : Type} {P : α → Prop} {Q : β → Prop}

theorem Answers.bind {r : Except Fault α} {g : α → Except Fault β} (h : Answers strict P r)
    (hg : ∀ a, P a → Answers strict Q (g a)) : Answers strict Q (r >>= g) := by
  cases r with
  | ok a => exact hg a h
  | error fault => exact h

theorem Answers.map {r : Except Fault α} {f : α → β} (h : Answers strict P r) (hf : ∀ a, P a → Q (f a)) :
    Answers strict Q (f <$> r) := by
  cases r with
  | ok a => exact hf a h
  | error fault => exact h

theorem answers_caught {fault : Fault} (h : fault.isCaught = true) :
    Answers strict P (.error fault) := .inl h

end

/-- The value is without bytes, where the answer is strict. -/
def Value.Byteless (strict : Prop) (v : Value) : Prop := strict → v.isByteless = true

theorem answers_attribute (v : Value) (name : String) :
    Answers strict (Value.Byteless strict) (v.attribute name) := by
  unfold Value.attribute
  split
  · next field methods h => exact fun _ => isByteless_field (by rw [h])
  · split <;> exact answers_caught rfl

theorem answers_negate (v : Value) : Answers strict (Value.Byteless strict) v.negate := by
  cases v <;> first | exact fun _ => rfl | exact answers_caught rfl

/-- The items of a value without bytes have none. -/
theorem byteless_items {v : Value} (hv : v.Byteless strict) (items : List Value)
    (h : v.items? = some items) : ∀ w ∈ items, w.Byteless strict := by
  cases v with
  | list items' place =>
    cases h
    exact fun w hw hs => Value.allByteless_iff.1 (hv hs) w hw
  | tuple items' place =>
    cases h
    exact fun w hw hs => Value.allByteless_iff.1 (hv hs) w hw
  | dict entries place =>
    cases h
    intro w hw hs
    obtain ⟨e, he, rfl⟩ := List.mem_map.1 hw
    exact (Value.entriesByteless_iff.1 (hv hs) e he).1
  | text s place =>
    cases h
    intro w hw
    obtain ⟨c, -, rfl⟩ := List.mem_map.1 hw
    exact fun _ => rfl
  | bytes b place =>
    cases h
    intro w hw
    obtain ⟨x, -, rfl⟩ := List.mem_map.1 hw
    exact fun _ => rfl
  | _ => cases h

/-- An item of a value is one of its items, or stands for a key of a dictionary. -/
theorem answers_itemAt {P : Value → Prop} {v : Value}
    (hi : ∀ items, v.items? = some items → ∀ w ∈ items, P w)
    (he : ∀ entries place, v = .dict entries place → ∀ e ∈ entries, P e.2) (index : Value) :
    Answers strict P (v.itemAt index) := by
  cases v with
  | dict entries place =>
    simp only [Value.itemAt]
    split
    · split
      · next e hf => exact he entries place rfl e (List.mem_of_find?_eq_some hf)
      · exact answers_caught rfl
    · exact answers_caught rfl
  | list _ _ | tuple _ _ | text _ _ | bytes _ _ =>
    -- these are all indexed alike
    simp only [Value.itemAt]
    split
    · next items _ his =>
      split
      · next item h =>
        obtain ⟨i, -, h⟩ := Option.bind_eq_some_iff.1 h
        exact hi items his item (List.mem_of_getElem? h)
      · exact answers_caught rfl
    · exact answers_caught rfl
  | _ => exact answers_caught rfl

theorem byteless_entries {v : Value} (hv : v.Byteless strict) :
    ∀ entries place, v = .dict entries place → ∀ e ∈ entries, e.2.Byteless strict := by
  rintro entries place rfl e he hs
  exact (Value.entriesByteless_iff.1 (hv hs) e he).2

/-! ## Comparisons -/

/-- A number that is looked for among bytes although it is none. -/
def AsksNoByte (x v : Value) : Prop :=
  (∃ n, Value.index? x = some n ∧ ¬(0 ≤ n ∧ n < 256)) ∧ ∃ b place, v = .bytes b place

theorem contains_uncaught_iff {x v : Value} {fault : Fault} :
    (Value.contains x v = .error fault ∧ fault.isCaught = false) ↔ fault = .noByte ∧ AsksNoByte x v := by
  have misfit : Fault.misfit.isCaught = true := rfl
  have noByte : Fault.noByte.isCaught = false := rfl
  cases v with
  | bytes b place =>
    cases x with
    | int n place => grind [Value.contains, AsksNoByte, Value.index?]
    | bool t => grind [Value.contains, AsksNoByte, Value.index?]
    | _ => grind [Value.contains, AsksNoByte, Value.index?]
  | text s place => cases x <;> grind [Value.contains, AsksNoByte]
  | _ => grind [Value.contains, AsksNoByte]

mutual

/-- Values that have no order are the only ones that cannot be compared for it. -/
theorem ordered_error (op : Comparison) (a b : Value) {fault : Fault} (h : Value.ordered op a b = .error fault) :
    fault = .misfit := by
  unfold Value.ordered at h
  split at h
  · cases h
  · cases h
  · exact orderedAll_error op _ _ h
  · exact orderedAll_error op _ _ h
  · split at h
    · cases h
    · cases h
      rfl

theorem orderedAll_error (op : Comparison) (as bs : List Value) {fault : Fault}
    (h : Value.orderedAll op as bs = .error fault) : fault = .misfit := by
  unfold Value.orderedAll at h
  split at h
  · cases h
  · cases h
  · cases h
  · split at h
    · exact orderedAll_error op _ _ h
    · exact ordered_error op _ _ h

end

theorem ordered_ne_uncaught {op : Comparison} {a b : Value} {fault : Fault} :
    ¬(Value.ordered op a b = .error fault ∧ fault.isCaught = false) := by
  rintro ⟨h, hf⟩
  rw [ordered_error op a b h] at hf
  cases hf

theorem map_eq_error_iff {α β : Type} {r : Except Fault α} {f : α → β} {fault : Fault} :
    f <$> r = .error fault ↔ r = .error fault := by
  cases r with
  | ok a => exact ⟨nofun, nofun⟩
  | error fault' => exact ⟨fun h => by cases h; rfl, fun h => by cases h; rfl⟩

/-- The one fault of a comparison that does not count as not holding. -/
theorem apply_uncaught_iff {op : Comparison} {a b : Value} {fault : Fault} :
    (op.apply a b = .error fault ∧ fault.isCaught = false) ↔
      fault = .noByte ∧ (op = .mem ∨ op = .notMem) ∧ AsksNoByte a b := by
  have order : ∀ op : Comparison, op ≠ .mem → op ≠ .notMem →
      ((Value.ordered op a b = .error fault ∧ fault.isCaught = false) ↔
        fault = .noByte ∧ (op = .mem ∨ op = .notMem) ∧ AsksNoByte a b) := by
    intro op h h'
    simp [ordered_ne_uncaught, h, h']
  cases op with
  | mem => simpa [Comparison.apply] using contains_uncaught_iff
  | notMem => simpa [Comparison.apply, map_eq_error_iff] using contains_uncaught_iff
  | lt => exact order .lt nofun nofun
  | le => exact order .le nofun nofun
  | gt => exact order .gt nofun nofun
  | ge => exact order .ge nofun nofun
  | eq => simp [Comparison.apply]
  | ne => simp [Comparison.apply]
  | is => simp [Comparison.apply]
  | isNot => simp [Comparison.apply]

theorem answers_apply {op : Comparison} {a b : Value} (hb : b.Byteless strict) :
    Answers strict (fun _ => True) (op.apply a b) := by
  cases h : op.apply a b with
  | ok holds => trivial
  | error fault =>
    cases hf : fault.isCaught with
    | true => exact answers_caught hf
    | false =>
      obtain ⟨rfl, -, -, bytes, place, rfl⟩ := apply_uncaught_iff.1 ⟨h, hf⟩
      exact .inr ⟨fun hs => Bool.false_ne_true (hb hs), rfl⟩

/-! ## Answers of expressions -/

theorem answers_builtin (f : Builtin) (args : List Value) :
    Answers strict (Value.Byteless strict) (f.apply args) := by
  unfold Builtin.apply
  split
  · split
    · exact answers_caught rfl
    · split <;> exact fun _ => rfl
  · exact answers_caught rfl

/-- No name stands for a value with bytes, where the answer is strict. -/
def Scope.Byteless (strict : Prop) (scope : Scope) : Prop := ∀ e ∈ scope, e.2.Byteless strict

section
variable {scope : Scope}

theorem answers_name {P : Value → Prop} (hs : ∀ e ∈ scope, P e.2) (id : String) :
    Answers strict P (eval scope (.name id)) := by
  rw [eval]
  split
  · next v h =>
    obtain ⟨e, he, rfl⟩ := Option.map_eq_some_iff.1 h
    exact hs e (List.mem_of_find?_eq_some he)
  · exact answers_caught rfl

mutual

/-- An expression gives a value, or a fault that counts as not holding, or looks for a number that is
no byte among bytes. Where no name stands for bytes, an expression without literals of bytes gives
no bytes and never does the last. -/
theorem answers_eval (hs : scope.Byteless strict) (t : Term) (ht : strict → t.isByteless = true) :
    Answers strict (Value.Byteless strict) (eval scope t) := by
  match t with
  | .literal l =>
    rw [eval]
    cases l with
    | bytes b => exact fun h => absurd (ht h) Bool.false_ne_true
    | _ => exact fun _ => rfl
  | .name id => exact answers_name hs id
  | .both terms =>
    rw [eval]
    exact (answers_both hs terms ht).map fun _ _ _ => rfl
  | .either terms =>
    rw [eval]
    exact (answers_either hs terms ht).map fun _ _ _ => rfl
  | .unary op operand =>
    cases op with
    | not =>
      rw [eval]
      exact (answers_eval hs operand ht).bind fun _ _ _ => rfl
    | minus =>
      rw [eval]
      exact (answers_eval hs operand ht).bind fun v _ => answers_negate v
    | _ => exact answers_caught rfl
  | .compare first links =>
    obtain ⟨hf, hl⟩ := imp_and.1 fun h => Bool.and_eq_true_iff.1 (ht h)
    rw [eval]
    refine (answers_eval hs first hf).bind fun v _ => ?_
    exact (answers_chain hs v links hl).map fun _ _ _ => rfl
  | .choice test body other =>
    obtain ⟨h, ho⟩ := imp_and.1 fun h => Bool.and_eq_true_iff.1 (ht h)
    obtain ⟨ht, hb⟩ := imp_and.1 fun h' => Bool.and_eq_true_iff.1 (h h')
    rw [eval]
    refine (answers_eval hs test ht).bind fun v _ => ?_
    split
    · exact answers_eval hs body hb
    · exact answers_eval hs other ho
  | .attribute object name =>
    rw [eval]
    split
    · exact answers_caught rfl
    · exact (answers_eval hs object ht).bind fun v _ => answers_attribute v name
  | .call callee args hasKeywords =>
    rw [eval]
    split
    · exact answers_caught rfl
    · split
      · exact answers_caught rfl
      · exact (answers_all hs args ht).bind fun vs _ => answers_builtin _ vs
  | .item object index =>
    obtain ⟨ho, hi⟩ := imp_and.1 fun h => Bool.and_eq_true_iff.1 (ht h)
    rw [eval]
    refine (answers_eval hs object ho).bind fun v hv => ?_
    exact (answers_eval hs index hi).bind fun i _ => answers_itemAt (byteless_items hv) (byteless_entries hv) i
  | .list items =>
    rw [eval]
    exact (answers_all hs items ht).bind fun vs hvs => hvs
  | .tuple items =>
    rw [eval]
    exact (answers_all hs items ht).bind fun vs hvs => hvs
  | .unsupported kind => exact answers_caught rfl

theorem answers_all (hs : scope.Byteless strict) (ts : List Term) (ht : strict → Term.allByteless ts = true) :
    Answers strict (fun vs => strict → Value.allByteless vs = true) (evalAll scope ts) := by
  match ts with
  | [] => exact fun _ => rfl
  | t :: r =>
    obtain ⟨h, hr⟩ := imp_and.1 fun h => Bool.and_eq_true_iff.1 (ht h)
    rw [evalAll]
    refine (answers_eval hs t h).bind fun v hv => ?_
    refine (answers_all hs r hr).bind fun vs hvs => ?_
    exact fun h => Bool.and_eq_true_iff.2 ⟨hv h, hvs h⟩

theorem answers_both (hs : scope.Byteless strict) (ts : List Term) (ht : strict → Term.allByteless ts = true) :
    Answers strict (fun _ => True) (evalBoth scope ts) := by
  match ts with
  | [] => trivial
  | t :: r =>
    obtain ⟨h, hr⟩ := imp_and.1 fun h => Bool.and_eq_true_iff.1 (ht h)
    rw [evalBoth]
    refine (answers_eval hs t h).bind fun v _ => ?_
    split
    · exact answers_both hs r hr
    · trivial

theorem answers_either (hs : scope.Byteless strict) (ts : List Term)
    (ht : strict → Term.allByteless ts = true) : Answers strict (fun _ => True) (evalEither scope ts) := by
  match ts with
  | [] => trivial
  | t :: r =>
    obtain ⟨h, hr⟩ := imp_and.1 fun h => Bool.and_eq_true_iff.1 (ht h)
    rw [evalEither]
    refine (answers_eval hs t h).bind fun v _ => ?_
    split
    · trivial
    · exact answers_either hs r hr

theorem answers_chain (hs : scope.Byteless strict) (left : Value) (links : List (Comparison × Term))
    (hl : strict → Term.linksByteless links = true) :
    Answers strict (fun _ => True) (evalChain scope left links) := by
  match links with
  | [] => trivial
  | (op, t) :: r =>
    obtain ⟨h, hr⟩ := imp_and.1 fun h => Bool.and_eq_true_iff.1 (hl h)
    rw [evalChain]
    refine (answers_eval hs t h).bind fun right hright => ?_
    refine (answers_apply hright).bind fun holds _ => ?_
    split
    · exact answers_chain hs right r hr
    · trivial

end

/-- The one fault of an expression that does not count as not holding. -/
theorem eval_uncaught {t : Term} {fault : Fault} (h : eval scope t = .error fault)
    (hf : fault.isCaught = false) : fault = .noByte := by
  have ha : Answers False (Value.Byteless False) (eval scope t) := answers_eval (fun _ _ => False.elim) t False.elim
  rw [h] at ha
  rcases ha with ha | ⟨-, ha⟩
  · cases ha.symm.trans hf
  · exact ha

/-- Without bytes there is no such fault. -/
theorem isCaught_of_byteless {t : Term} (hs : ∀ e ∈ scope, e.2.isByteless = true) (ht : t.isByteless = true)
    {fault : Fault} (h : eval scope t = .error fault) : fault.isCaught = true := by
  have ha : Answers True (Value.Byteless True) (eval scope t) :=
    answers_eval (fun e he _ => hs e he) t fun _ => ht
  rw [h] at ha
  rcases ha with ha | ⟨ha, -⟩
  · exact ha
  · exact absurd trivial ha

end

end

end ChainLint.Guard
