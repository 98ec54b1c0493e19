import ChainLint.Guard.Eval
/-!
# What expressions mean

The language of guards is part of a larger one, in which `and` and `or` give
the operand that decides and not its truth value. `Means` says what expressions
mean there, one rule for each way to come to a value or to a fault. Functions
are values there, which guards have none of, so that expressions that ask for
one as a value have no rule. `Then` joins what two expressions mean one after
the other; by it the rules for each kind of expression are read backwards.
-/

namespace ChainLint.Guard

/-- What an attribute of a value means, if it is no method. -/
inductive FieldMeans (field : String) (v : Value) : Except Fault Value → Prop
  | has {w : Value} (h : (v.fieldOrMethods field).1 = some w) : FieldMeans field v (.ok w)
  | lacks (h : (v.fieldOrMethods field).1 = none) (noMethod : field ∉ (v.fieldOrMethods field).2) :
    FieldMeans field v (.error .noAttribute)

mutual

/-- What an expression means in the larger language: a value, or how it fails. -/
inductive Means (scope : Scope) : Term → Except Fault Value → Prop
  | literal (l : Literal) : Means scope (.literal l) (.ok l.value)
  | bound {id : String} {v : Value} (found : scope.get? id = some v) : Means scope (.name id) (.ok v)
  | unbound {id : String} (missing : scope.get? id = none) (noFunction : Builtin.ofName? id = none) :
    Means scope (.name id) (.error (.unknownName id))
  | both {terms : List Term} {o : Except Fault Value} (h : MeansDeciding scope false terms o) :
    Means scope (.both terms) o
  | either {terms : List Term} {o : Except Fault Value} (h : MeansDeciding scope true terms o) :
    Means scope (.either terms) o
  | not {t : Term} {x : Except Fault Value} (h : Means scope t x) :
    Means scope (.unary .not t) (x >>= fun v => .ok (.bool !v.isTruthy))
  | minus {t : Term} {x : Except Fault Value} (h : Means scope t x) : Means scope (.unary .minus t) (x >>= Value.negate)
  | compare {first : Term} {left : Value} {links : List (Comparison × Term)} {o : Except Fault Value}
    (h : Means scope first (.ok left)) (hl : MeansChain scope left links o) : Means scope (.compare first links) o
  | compareFault {first : Term} {links : List (Comparison × Term)} {fault : Fault}
    (h : Means scope first (.error fault)) : Means scope (.compare first links) (.error fault)
  | choice {test body other : Term} {v : Value} {o : Except Fault Value} (h : Means scope test (.ok v))
    (hb : Means scope (if v.isTruthy then body else other) o) : Means scope (.choice test body other) o
  | choiceFault {test body other : Term} {fault : Fault} (h : Means scope test (.error fault)) :
    Means scope (.choice test body other) (.error fault)
  | field {object : Term} {field : String} {v : Value} {o : Except Fault Value} (shown : isPrivate field = false)
    (h : Means scope object (.ok v)) (hf : FieldMeans field v o) : Means scope (.attribute object field) o
  | fieldFault {object : Term} {field : String} {fault : Fault} (shown : isPrivate field = false)
    (h : Means scope object (.error fault)) : Means scope (.attribute object field) (.error fault)
  | call {id : String} {f : Builtin} {args : List Term} {x : Except Fault (List Value)}
    (named : Builtin.ofName? id = some f) (free : scope.get? id = none) (h : MeansAll scope args x) :
    Means scope (.call (.name id) args false) (x >>= f.apply)
  | item {object index : Term} {v : Value} {x : Except Fault Value} (h : Means scope object (.ok v))
    (hi : Means scope index x) : Means scope (.item object index) (x >>= v.itemAt)
  | itemFault {object index : Term} {fault : Fault} (h : Means scope object (.error fault)) :
    Means scope (.item object index) (.error fault)
  | list {items : List Term} {x : Except Fault (List Value)} (h : MeansAll scope items x) :
    Means scope (.list items) (x >>= fun vs => .ok (.list vs .nowhere))
  | tuple {items : List Term} {x : Except Fault (List Value)} (h : MeansAll scope items x) :
    Means scope (.tuple items) (x >>= fun vs => .ok (.tuple vs .nowhere))

/-- What expressions mean in order, up to the first that fails. -/
inductive MeansAll (scope : Scope) : List Term → Except Fault (List Value) → Prop
  | nil : MeansAll scope [] (.ok [])
  | cons {t : Term} {r : List Term} {v : Value} {x : Except Fault (List Value)} (h : Means scope t (.ok v))
    (hr : MeansAll scope r x) : MeansAll scope (t :: r) (x >>= fun vs => .ok (v :: vs))
  | fault {t : Term} {r : List Term} {fault : Fault} (h : Means scope t (.error fault)) :
    MeansAll scope (t :: r) (.error fault)

/-- The meaning of the first operand with the deciding truth value, or else of the last. -/
inductive MeansDeciding (scope : Scope) : Bool → List Term → Except Fault Value → Prop
  /-- No such expression can be written. -/
  | nil {deciding : Bool} : MeansDeciding scope deciding [] (.ok (.bool !deciding))
  | last {deciding : Bool} {t : Term} {o : Except Fault Value} (h : Means scope t o) :
    MeansDeciding scope deciding [t] o
  | decides {deciding : Bool} {t u : Term} {r : List Term} {v : Value} (h : Means scope t (.ok v))
    (hv : v.isTruthy = deciding) : MeansDeciding scope deciding (t :: u :: r) (.ok v)
  | next {deciding : Bool} {t u : Term} {r : List Term} {v : Value} {o : Except Fault Value}
    (h : Means scope t (.ok v)) (hv : v.isTruthy ≠ deciding) (hr : MeansDeciding scope deciding (u :: r) o) :
    MeansDeciding scope deciding (t :: u :: r) o
  | fault {deciding : Bool} {t u : Term} {r : List Term} {fault : Fault} (h : Means scope t (.error fault)) :
    MeansDeciding scope deciding (t :: u :: r) (.error fault)

/-- What the comparisons of a value to the operands of a chain mean, up to the first that does not hold. -/
inductive MeansChain (scope : Scope) : Value → List (Comparison × Term) → Except Fault Value → Prop
  | nil {left : Value} : MeansChain scope left [] (.ok (.bool true))
  | holds {left right : Value} {op : Comparison} {t : Term} {r : List (Comparison × Term)} {o : Except Fault Value}
    (h : Means scope t (.ok right)) (ho : op.apply left right = .ok true) (hr : MeansChain scope right r o) :
    MeansChain scope left ((op, t) :: r) o
  | fails {left right : Value} {op : Comparison} {t : Term} {r : List (Comparison × Term)}
    (h : Means scope t (.ok right)) (ho : op.apply left right = .ok false) :
    MeansChain scope left ((op, t) :: r) (.ok (.bool false))
  | unfit {left right : Value} {op : Comparison} {t : Term} {r : List (Comparison × Term)} {fault : Fault}
    (h : Means scope t (.ok right)) (ho : op.apply left right = .error fault) :
    MeansChain scope left ((op, t) :: r) (.error fault)
  | fault {left : Value} {op : Comparison} {t : Term} {r : List (Comparison × Term)} {fault : Fault}
    (h : Means scope t (.error fault)) : MeansChain scope left ((op, t) :: r) (.error fault)

end

/-! ## Rules read backwards -/

/-- The outcomes of a second computation, which goes on from the value of a first one. -/
def Then {α β : Type} (P : Except Fault α → Prop) (M : α → Except Fault β → Prop) (o : Except Fault β) : Prop :=
  (∃ a, P (.ok a) ∧ M a o) ∨ ∃ fault, P (.error fault) ∧ o = .error fault

/-- An outcome of a second computation that has one for each value of the first. -/
theorem exists_bind_iff {α β : Type} {P : Except Fault α → Prop} {g : α → Except Fault β} {o : Except Fault β} :
    (∃ y, P y ∧ o = y >>= g) ↔ Then P (fun a o => o = g a) o := by
  constructor
  · rintro ⟨y, hy, rfl⟩
    cases y with
    | ok a => exact .inl ⟨a, hy, rfl⟩
    | error fault => exact .inr ⟨fault, hy, rfl⟩
  · rintro (⟨a, ha, rfl⟩ | ⟨fault, hf, rfl⟩)
    · exact ⟨.ok a, ha, rfl⟩
    · exact ⟨.error fault, hf, rfl⟩

section
variable {scope : Scope} {o : Except Fault Value}

theorem means_literal_iff {l : Literal} : Means scope (.literal l) o ↔ o = .ok l.value := by
  constructor
  · intro h
    cases h
    rfl
  · rintro rfl
    exact .literal l

theorem means_name_iff {id : String} :
    Means scope (.name id) o ↔ (∃ v, scope.get? id = some v ∧ o = .ok v) ∨
      scope.get? id = none ∧ Builtin.ofName? id = none ∧ o = .error (.unknownName id) := by
  constructor
  · intro h
    cases h with
    | bound found => exact .inl ⟨_, found, rfl⟩
    | unbound missing noFunction => exact .inr ⟨missing, noFunction, rfl⟩
  · rintro (⟨v, found, rfl⟩ | ⟨missing, noFunction, rfl⟩)
    · exact .bound found
    · exact .unbound missing noFunction

theorem means_both_iff {terms : List Term} : Means scope (.both terms) o ↔ MeansDeciding scope false terms o := by
  constructor
  · intro h
    cases h with
    | both h => exact h
  · exact .both

theorem means_either_iff {terms : List Term} : Means scope (.either terms) o ↔ MeansDeciding scope true terms o := by
  constructor
  · intro h
    cases h with
    | either h => exact h
  · exact .either

theorem means_not_iff {t : Term} :
    Means scope (.unary .not t) o ↔ Then (Means scope t) (fun v o => o = .ok (.bool !v.isTruthy)) o := by
  rw [← exists_bind_iff]
  constructor
  · intro h
    cases h with
    | not h => exact ⟨_, h, rfl⟩
  · rintro ⟨x, h, rfl⟩
    exact .not h

theorem means_minus_iff {t : Term} :
    Means scope (.unary .minus t) o ↔ ∃ x, Means scope t x ∧ o = x >>= Value.negate := by
  constructor
  · intro h
    cases h with
    | minus h => exact ⟨_, h, rfl⟩
  · rintro ⟨x, h, rfl⟩
    exact .minus h

theorem means_compare_iff {first : Term} {links : List (Comparison × Term)} :
    Means scope (.compare first links) o ↔ Then (Means scope first) (fun left => MeansChain scope left links) o := by
  constructor
  · intro h
    cases h with
    | compare h hl => exact .inl ⟨_, h, hl⟩
    | compareFault h => exact .inr ⟨_, h, rfl⟩
  · rintro (⟨left, h, hl⟩ | ⟨fault, h, rfl⟩)
    · exact .compare h hl
    · exact .compareFault h

theorem means_choice_iff {test body other : Term} :
    Means scope (.choice test body other) o ↔
      Then (Means scope test) (fun v => Means scope (if v.isTruthy then body else other)) o := by
  constructor
  · intro h
    cases h with
    | choice h hb => exact .inl ⟨_, h, hb⟩
    | choiceFault h => exact .inr ⟨_, h, rfl⟩
  · rintro (⟨v, h, hb⟩ | ⟨fault, h, rfl⟩)
    · exact .choice h hb
    · exact .choiceFault h

theorem fieldMeans_iff {field : String} {v : Value} :
    FieldMeans field v o ↔ (∃ w, (v.fieldOrMethods field).1 = some w ∧ o = .ok w) ∨
      (v.fieldOrMethods field).1 = none ∧ field ∉ (v.fieldOrMethods field).2 ∧ o = .error .noAttribute := by
  constructor
  · intro h
    cases h with
    | has has => exact .inl ⟨_, has, rfl⟩
    | lacks lacks noMethod => exact .inr ⟨lacks, noMethod, rfl⟩
  · rintro (⟨w, has, rfl⟩ | ⟨lacks, noMethod, rfl⟩)
    · exact .has has
    · exact .lacks lacks noMethod

theorem means_attribute_iff {object : Term} {field : String} :
    Means scope (.attribute object field) o ↔
      isPrivate field = false ∧ Then (Means scope object) (FieldMeans field) o := by
  constructor
  · intro h
    cases h with
    | field shown h hf => exact ⟨shown, .inl ⟨_, h, hf⟩⟩
    | fieldFault shown h => exact ⟨shown, .inr ⟨_, h, rfl⟩⟩
  · rintro ⟨shown, ⟨v, h, hf⟩ | ⟨fault, h, rfl⟩⟩
    · exact .field shown h hf
    · exact .fieldFault shown h

theorem means_item_iff {object index : Term} :
    Means scope (.item object index) o ↔
      Then (Means scope object) (fun v o => ∃ x, Means scope index x ∧ o = x >>= v.itemAt) o := by
  constructor
  · intro h
    cases h with
    | item h hi => exact .inl ⟨_, h, _, hi, rfl⟩
    | itemFault h => exact .inr ⟨_, h, rfl⟩
  · rintro (⟨v, h, x, hi, rfl⟩ | ⟨fault, h, rfl⟩)
    · exact .item h hi
    · exact .itemFault h

theorem means_call_iff {callee : Term} {args : List Term} {hasKeywords : Bool} :
    Means scope (.call callee args hasKeywords) o ↔
      ∃ id f, callee = .name id ∧ Builtin.ofName? id = some f ∧ scope.get? id = none ∧ hasKeywords = false ∧
        ∃ x, MeansAll scope args x ∧ o = x >>= f.apply := by
  constructor
  · intro h
    cases h with
    | call named free h => exact ⟨_, _, rfl, named, free, rfl, _, h, rfl⟩
  · rintro ⟨id, f, rfl, named, free, rfl, x, h, rfl⟩
    exact .call named free h

theorem means_list_iff {items : List Term} :
    Means scope (.list items) o ↔ ∃ x, MeansAll scope items x ∧ o = x >>= fun vs => .ok (.list vs .nowhere) := by
  constructor
  · intro h
    cases h with
    | list h => exact ⟨_, h, rfl⟩
  · rintro ⟨x, h, rfl⟩
    exact .list h

theorem means_tuple_iff {items : List Term} :
    Means scope (.tuple items) o ↔ ∃ x, MeansAll scope items x ∧ o = x >>= fun vs => .ok (.tuple vs .nowhere) := by
  constructor
  · intro h
    cases h with
    | tuple h => exact ⟨_, h, rfl⟩
  · rintro ⟨x, h, rfl⟩
    exact .tuple h

theorem meansAll_nil_iff {o : Except Fault (List Value)} : MeansAll scope [] o ↔ o = .ok [] := by
  constructor
  · intro h
    cases h
    rfl
  · rintro rfl
    exact .nil

theorem meansAll_cons_iff {t : Term} {r : List Term} {o : Except Fault (List Value)} :
    MeansAll scope (t :: r) o ↔
      Then (Means scope t) (fun v o => ∃ x, MeansAll scope r x ∧ o = x >>= fun vs => .ok (v :: vs)) o := by
  constructor
  · intro h
    cases h with
    | cons h hr => exact .inl ⟨_, h, _, hr, rfl⟩
    | fault h => exact .inr ⟨_, h, rfl⟩
  · rintro (⟨v, h, x, hr, rfl⟩ | ⟨fault, h, rfl⟩)
    · exact .cons h hr
    · exact .fault h

theorem meansDeciding_nil_iff {deciding : Bool} :
    MeansDeciding scope deciding [] o ↔ o = .ok (.bool !deciding) := by
  constructor
  · intro h
    cases h
    rfl
  · rintro rfl
    exact .nil

theorem meansDeciding_last_iff {deciding : Bool} {t : Term} : MeansDeciding scope deciding [t] o ↔ Means scope t o := by
  constructor
  · intro h
    cases h with
    | last h => exact h
  · exact .last

theorem meansDeciding_cons_iff {deciding : Bool} {t u : Term} {r : List Term} :
    MeansDeciding scope deciding (t :: u :: r) o ↔
      Then (Means scope t)
        (fun v o => if v.isTruthy = deciding then o = .ok v else MeansDeciding scope deciding (u :: r) o) o := by
  constructor
  · intro h
    cases h with
    | decides h hv => exact .inl ⟨_, h, by dsimp only; rw [if_pos hv]⟩
    | next h hv hr => exact .inl ⟨_, h, by dsimp only; rwa [if_neg hv]⟩
    | fault h => exact .inr ⟨_, h, rfl⟩
  · rintro (⟨v, h, ho⟩ | ⟨fault, h, rfl⟩)
    · split at ho
      · next hv =>
        rw [ho]
        exact .decides h hv
      · next hv => exact .next h hv ho
    · exact .fault h

theorem meansChain_nil_iff {left : Value} : MeansChain scope left [] o ↔ o = .ok (.bool true) := by
  constructor
  · intro h
    cases h
    rfl
  · rintro rfl
    exact .nil

theorem meansChain_cons_iff {left : Value} {op : Comparison} {t : Term} {r : List (Comparison × Term)} :
    MeansChain scope left ((op, t) :: r) o ↔
      Then (Means scope t) (fun right => Then (fun y => y = op.apply left right)
        fun holds o => if holds then MeansChain scope right r o else o = .ok (.bool false)) o := by
  constructor
  · intro h
    cases h with
    | holds h ho hr => exact .inl ⟨_, h, .inl ⟨true, ho.symm, hr⟩⟩
    | fails h ho => exact .inl ⟨_, h, .inl ⟨false, ho.symm, rfl⟩⟩
    | unfit h ho => exact .inl ⟨_, h, .inr ⟨_, ho.symm, rfl⟩⟩
    | fault h => exact .inr ⟨_, h, rfl⟩
  · rintro (⟨right, h, ⟨holds, ho, hr⟩ | ⟨fault, ho, rfl⟩⟩ | ⟨fault, h, rfl⟩)
    · cases holds with
      | true => exact .holds h ho.symm hr
      | false =>
        rw [show o = .ok (.bool false) from hr]
        exact .fails h ho.symm
    · exact .unfit h ho.symm
    · exact .fault h

end

end ChainLint.Guard
