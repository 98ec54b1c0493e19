import ChainLint.Guard.Reading
import ChainLint.Proofs.Forbidden
import ChainLint.Proofs.Meaning
import ChainLint.Proofs.TruthOnly
/-!
# Guards and the larger language

`eval_means`: an expression comes to what it means if every `and` and `or`
stands where only its truth is asked for, and otherwise to what it means with
`not` put two times before each. `defaulted_differs` is an expression that comes
to something else than it means.

What an expression means is told from what its parts mean by `Then`, and what it
comes to by the monad's `bind`; `Exact.step` and its variants for truth carry
agreement from the parts to the whole.
-/

namespace ChainLint.Guard

/-! ## Outcomes in both languages -/

/-- Whether a fault is that a function is asked for as a value. -/
def Fault.isFunction : Fault → Bool
  | .method _ => true
  | .unknownName id => (Builtin.ofName? id).isSome
  | _ => false

/-- An outcome that both languages have: nothing is refused, and no function is asked for as a value. -/
def Within {α : Type} (x : Except Fault α) : Prop :=
  ∀ fault, x = .error fault → fault.isRefusal = false ∧ fault.isFunction = false

section
variable {α β : Type}

@[simp] theorem within_ok (a : α) : Within (.ok a) := nofun

@[simp] theorem within_error {fault : Fault} :
    Within (.error fault : Except Fault α) ↔ fault.isRefusal = false ∧ fault.isFunction = false := by
  constructor
  · intro h
    exact h fault rfl
  · intro h fault' h'
    cases h'
    exact h

theorem Classed.within {x : Except Fault α} (h : Classed x) : Within x := by
  intro fault hx
  refine ⟨h.permits fault hx, ?_⟩
  have hc := h fault hx
  cases fault <;> first | rfl | exact absurd rfl hc

/-- A step comes to an outcome of both languages after such an outcome of what is before it. -/
theorem bind_within_iff {x : Except Fault α} {g : α → Except Fault β} {o : Except Fault β} :
    (x >>= g = o ∧ Within o) ↔
      (∃ a, x = .ok a ∧ g a = o ∧ Within o) ∨
      ∃ fault, (x = .error fault ∧ Within (.error fault : Except Fault α)) ∧ o = .error fault := by
  cases x with
  | ok a => simp [bind, Except.bind]
  | error fault =>
    constructor
    · rintro ⟨rfl, h⟩
      exact .inr ⟨fault, ⟨rfl, within_error.2 (within_error.1 h)⟩, rfl⟩
    · rintro (⟨a, ha, -⟩ | ⟨fault', ⟨hf, h⟩, rfl⟩)
      · cases ha
      · cases hf
        exact ⟨rfl, within_error.2 (within_error.1 h)⟩

end

/-! ## Meanings of parts and of the whole -/

/-- What something means is what it comes to, if both languages have that outcome. -/
def Exact {α : Type} (P : Except Fault α → Prop) (x : Except Fault α) : Prop := ∀ o, P o ↔ x = o ∧ Within o

/-- What something means has the truth value that it comes to, or it fails alike. -/
structure TruthExact (P : Except Fault Value → Prop) (x : Except Fault Bool) : Prop where
  holds : ∀ truth, (∃ v, P (.ok v) ∧ v.isTruthy = truth) ↔ x = .ok truth
  fails : ∀ fault, P (.error fault) ↔ x = .error fault ∧ Within (.error fault : Except Fault Bool)

/-- The truth of a value. -/
def truth (x : Except Fault Value) : Except Fault Bool := x.map Value.isTruthy

section
variable {α β : Type} {P : Except Fault α → Prop} {x : Except Fault α} {M : α → Except Fault β → Prop}
  {g : α → Except Fault β}

theorem exact_shared (h : Within x) : Exact (fun o => o = x) x := by
  intro o
  constructor
  · rintro rfl
    exact ⟨rfl, h⟩
  · rintro ⟨rfl, -⟩
    rfl

theorem Exact.congr {P' : Except Fault α → Prop} (h : Exact P x) (hp : ∀ o, P' o ↔ P o) : Exact P' x :=
  fun o => (hp o).trans (h o)

theorem Exact.step (h : Exact P x) (hm : ∀ a, Exact (M a) (g a)) : Exact (Then P M) (x >>= g) := by
  intro o
  rw [bind_within_iff]
  unfold Then
  simp only [h _, hm _ _, within_ok, and_true]

theorem Exact.shared (h : Exact P x) (hg : ∀ a, Within (g a)) :
    Exact (fun o => ∃ y, P y ∧ o = y >>= g) (x >>= g) :=
  (h.step fun a => exact_shared (hg a)).congr fun _ => exists_bind_iff

end

section
variable {P : Except Fault Value → Prop} {x : Except Fault Bool}

theorem Exact.truth {y : Except Fault Value} (h : Exact P y) : TruthExact P (truth y) := by
  constructor
  · intro c
    cases y with
    | ok v => simp [h _, Guard.truth, Except.map, within_ok, and_comm, eq_comm]
    | error fault => simp [h _, Guard.truth, Except.map]
  · intro fault
    cases y with
    | ok v => simp [h _, Guard.truth, Except.map]
    | error fault' => simp [h _, Guard.truth, Except.map]

theorem TruthExact.congr {P' : Except Fault Value → Prop} (h : TruthExact P x) (hp : ∀ o, P' o ↔ P o) :
    TruthExact P' x := by
  constructor
  · intro truth
    simp only [hp, h.holds]
  · intro fault
    rw [hp, h.fails]

/-- What goes on from the truth of a value only. -/
theorem TruthExact.step {β : Type} {M : Value → Except Fault β → Prop} {g : Bool → Except Fault β} (h : TruthExact P x)
    (hm : ∀ v, Exact (M v) (g v.isTruthy)) : Exact (Then P M) (x >>= g) := by
  intro o
  rw [bind_within_iff]
  constructor
  · rintro (⟨v, hv, ho⟩ | ⟨fault, hf, rfl⟩)
    · exact .inl ⟨v.isTruthy, (h.holds _).1 ⟨v, hv, rfl⟩, (hm v o).1 ho⟩
    · exact .inr ⟨fault, (h.fails fault).1 hf, rfl⟩
  · rintro (⟨c, hc, ho⟩ | ⟨fault, hf, rfl⟩)
    · obtain ⟨v, hv, rfl⟩ := (h.holds c).2 hc
      exact .inl ⟨v, hv, (hm v o).2 ho⟩
    · exact .inr ⟨fault, (h.fails fault).2 hf, rfl⟩

theorem TruthExact.truthStep {M : Value → Except Fault Value → Prop} {g : Bool → Except Fault Bool} (h : TruthExact P x)
    (hm : ∀ v, TruthExact (M v) (g v.isTruthy)) : TruthExact (Then P M) (x >>= g) := by
  constructor
  · intro truth
    constructor
    · rintro ⟨w, ⟨v, hv, hw⟩ | ⟨fault, -, hw⟩, rfl⟩
      · rw [(h.holds _).1 ⟨v, hv, rfl⟩]
        exact ((hm v).holds _).1 ⟨w, hw, rfl⟩
      · cases hw
    · intro hx
      cases x with
      | error fault => cases hx
      | ok c =>
        obtain ⟨v, hv, rfl⟩ := (h.holds c).2 rfl
        obtain ⟨w, hw, rfl⟩ := ((hm v).holds truth).2 hx
        exact ⟨w, .inl ⟨v, hv, hw⟩, rfl⟩
  · intro fault
    rw [bind_within_iff]
    constructor
    · rintro (⟨v, hv, hf⟩ | ⟨fault', hf, he⟩)
      · exact .inl ⟨v.isTruthy, (h.holds _).1 ⟨v, hv, rfl⟩, ((hm v).fails fault).1 hf⟩
      · exact .inr ⟨fault', (h.fails fault').1 hf, congrArg _ (Except.error.inj he)⟩
    · rintro (⟨c, hc, hf⟩ | ⟨fault', hf, he⟩)
      · obtain ⟨v, hv, rfl⟩ := (h.holds c).2 hc
        exact .inl ⟨v, hv, ((hm v).fails fault).2 hf⟩
      · exact .inr ⟨fault', (h.fails fault').2 hf, congrArg _ (Except.error.inj he)⟩

end

/-! ## Each kind of expression -/

section
variable {scope : Scope}

/-- A guard expression comes to what it means, or at least to its truth if only that is asked for. -/
def Agrees (scope : Scope) (t : Term) : Bool → Prop
  | true => TruthExact (Means scope t) (truth (eval scope t))
  | false => Exact (Means scope t) (eval scope t)

theorem Exact.agrees {t : Term} (h : Exact (Means scope t) (eval scope t)) (truthOnly : Bool) :
    Agrees scope t truthOnly := by
  cases truthOnly with
  | true => exact h.truth
  | false => exact h

/-- What is refused means nothing. -/
theorem exact_forbidden {t : Term} (ht : t.isForbidden = true) (none : ∀ o, ¬Means scope t o) :
    Exact (Means scope t) (eval scope t) := by
  obtain ⟨fault, refusal, he⟩ := refused ht
  intro o
  constructor
  · intro h
    exact absurd h (none o)
  · rintro ⟨rfl, h⟩
    rw [he scope, within_error] at h
    cases refusal.symm.trans h.1

theorem exact_literal (l : Literal) : Exact (Means scope (.literal l)) (eval scope (.literal l)) := by
  rw [eval]
  exact (exact_shared (within_ok _)).congr fun _ => means_literal_iff

theorem exact_name (id : String) : Exact (Means scope (.name id)) (eval scope (.name id)) := by
  intro o
  rw [means_name_iff, eval]
  cases scope.get? id with
  | some v =>
    constructor
    · rintro (⟨w, hw, rfl⟩ | ⟨hn, -⟩)
      · cases hw
        exact ⟨rfl, within_ok v⟩
      · cases hn
    · rintro ⟨rfl, -⟩
      exact .inl ⟨v, rfl, rfl⟩
  | none =>
    constructor
    · rintro (⟨w, hw, -⟩ | ⟨-, noFunction, rfl⟩)
      · cases hw
      · exact ⟨rfl, within_error.2 ⟨rfl, by rw [Fault.isFunction, noFunction]; rfl⟩⟩
    · rintro ⟨rfl, h⟩
      exact .inr ⟨rfl, Option.not_isSome_iff_eq_none.1 (Bool.eq_false_iff.1 (within_error.1 h).2), rfl⟩

theorem exact_not {operand : Term} (h : TruthExact (Means scope operand) (truth (eval scope operand))) :
    Exact (Means scope (.unary .not operand)) (eval scope (.unary .not operand)) := by
  have same : eval scope (.unary .not operand) = truth (eval scope operand) >>= fun c => .ok (Value.bool !c) := by
    rw [eval]
    cases eval scope operand <;> rfl
  have step : Exact (Then (Means scope operand) fun v o => o = .ok (Value.bool !v.isTruthy))
      (truth (eval scope operand) >>= fun c => .ok (Value.bool !c)) := h.step fun v => exact_shared (within_ok _)
  rw [same]
  exact step.congr fun _ => means_not_iff

theorem exact_minus {operand : Term} (h : Exact (Means scope operand) (eval scope operand)) :
    Exact (Means scope (.unary .minus operand)) (eval scope (.unary .minus operand)) := by
  rw [eval]
  exact (h.shared fun v => (classed_negate v).within).congr fun _ => means_minus_iff

theorem eval_choice (test body other : Term) : eval scope (.choice test body other) =
    truth (eval scope test) >>= fun c => eval scope (if c then body else other) := by
  rw [eval]
  cases eval scope test with
  | error fault => rfl
  | ok v => cases hv : v.isTruthy <;> simp [truth, Except.map, bind, Except.bind, hv]

/-- Only the truth of the test counts. What is asked of the choice is asked of both branches. -/
theorem Agrees.choice {test body other : Term} {truthOnly : Bool} (ht : Agrees scope test true)
    (hb : Agrees scope body truthOnly) (ho : Agrees scope other truthOnly) :
    Agrees scope (.choice test body other) truthOnly := by
  have decided : TruthExact (Means scope test) (truth (eval scope test)) := ht
  have branch : ∀ c : Bool, Agrees scope (if c then body else other) truthOnly := by
    intro c
    cases c with
    | true => exact hb
    | false => exact ho
  cases truthOnly with
  | true =>
    have same : truth (eval scope (.choice test body other)) =
        truth (eval scope test) >>= fun c => truth (eval scope (if c then body else other)) := by
      rw [eval_choice]
      cases truth (eval scope test) <;> rfl
    have step : TruthExact (Then (Means scope test) fun v => Means scope (if v.isTruthy then body else other))
        (truth (eval scope test) >>= fun c => truth (eval scope (if c then body else other))) :=
      decided.truthStep fun v => branch v.isTruthy
    rw [Agrees, same]
    exact step.congr fun _ => means_choice_iff
  | false =>
    have step : Exact (Then (Means scope test) fun v => Means scope (if v.isTruthy then body else other))
        (truth (eval scope test) >>= fun c => eval scope (if c then body else other)) :=
      decided.step fun v => branch v.isTruthy
    rw [Agrees, eval_choice]
    exact step.congr fun _ => means_choice_iff

/-- An attribute of a value means what guards read there, if it is no method. -/
theorem exact_field (field : String) (v : Value) : Exact (FieldMeans field v) (v.attribute field) := by
  intro o
  rw [fieldMeans_iff]
  unfold Value.attribute
  rcases v.fieldOrMethods field with ⟨found, methods⟩
  cases found with
  | some w =>
    constructor
    · rintro (⟨w', hw, rfl⟩ | ⟨hn, -⟩)
      · cases hw
        exact ⟨rfl, within_ok w⟩
      · cases hn
    · rintro ⟨rfl, -⟩
      exact .inl ⟨w, rfl, rfl⟩
  | none =>
    -- a method is a function, which has no rule
    by_cases hm : field ∈ methods
    · simp only [List.contains_iff_mem.2 hm, if_true]
      constructor
      · rintro (⟨w, hw, -⟩ | ⟨-, noMethod, -⟩)
        · cases hw
        · exact absurd hm noMethod
      · rintro ⟨rfl, h⟩
        cases (within_error.1 h).2
    · have noMethod : ¬methods.contains field = true := fun h => hm (List.contains_iff_mem.1 h)
      simp only [if_neg noMethod]
      constructor
      · rintro (⟨w, hw, -⟩ | ⟨-, -, rfl⟩)
        · cases hw
        · exact ⟨rfl, within_error.2 ⟨rfl, rfl⟩⟩
      · rintro ⟨rfl, -⟩
        exact .inr ⟨trivial, hm, rfl⟩

theorem exact_attribute {object : Term} (h : Exact (Means scope object) (eval scope object)) (field : String) :
    Exact (Means scope (.attribute object field)) (eval scope (.attribute object field)) := by
  cases hp : isPrivate field with
  | true =>
    have forbidden : Term.isForbidden (.attribute object field) = true := hp
    refine exact_forbidden forbidden fun o hm => ?_
    cases hp.symm.trans (means_attribute_iff.1 hm).1
  | false =>
    rw [eval, hp]
    refine (h.step fun v => exact_field field v).congr fun o => ?_
    rw [means_attribute_iff]
    exact and_iff_right hp

theorem exact_call (free : ∀ id, (Builtin.ofName? id).isSome → scope.get? id = none) {args : List Term}
    (h : Exact (MeansAll scope args) (evalAll scope args)) (callee : Term) (hasKeywords : Bool) :
    Exact (Means scope (.call callee args hasKeywords)) (eval scope (.call callee args hasKeywords)) := by
  cases hb : Term.isForbidden (.call callee args hasKeywords) with
  | true =>
    refine exact_forbidden hb fun o hm => ?_
    obtain ⟨id, f, rfl, named, -, rfl, -⟩ := means_call_iff.1 hm
    simp [Term.isForbidden, builtin?, named] at hb
  | false =>
    obtain ⟨allowed, rfl⟩ := Bool.or_eq_false_iff.1 hb
    cases callee with
    | name id =>
      cases named : Builtin.ofName? id with
      | none => simp [builtin?, named] at allowed
      | some f =>
        have unbound : scope.get? id = none := free id (by rw [named]; rfl)
        simp only [eval, builtin?, named, Bool.false_eq_true, if_false]
        refine (h.shared fun vs => (classed_builtin f vs).within).congr fun o => ?_
        rw [means_call_iff]
        constructor
        · rintro ⟨id', f', hid, named', -, -, hm⟩
          cases hid
          cases named.symm.trans named'
          exact hm
        · exact fun hm => ⟨id, f, rfl, named, unbound, rfl, hm⟩
    | _ => cases allowed

theorem exact_item {object index : Term} (ho : Exact (Means scope object) (eval scope object))
    (hi : Exact (Means scope index) (eval scope index)) :
    Exact (Means scope (.item object index)) (eval scope (.item object index)) := by
  rw [eval]
  exact (ho.step fun v => hi.shared fun i => (classed_itemAt v i).within).congr fun _ => means_item_iff

theorem exact_list {items : List Term} (h : Exact (MeansAll scope items) (evalAll scope items)) :
    Exact (Means scope (.list items)) (eval scope (.list items)) := by
  rw [eval]
  exact (h.shared fun _ => within_ok _).congr fun _ => means_list_iff

theorem exact_tuple {items : List Term} (h : Exact (MeansAll scope items) (evalAll scope items)) :
    Exact (Means scope (.tuple items)) (eval scope (.tuple items)) := by
  rw [eval]
  exact (h.shared fun _ => within_ok _).congr fun _ => means_tuple_iff

/-! ## Operands in order -/

/-- Whether some operand has the deciding truth value, looked for in order. -/
def evalDeciding (scope : Scope) (deciding : Bool) : List Term → Except Fault Bool
  | [] => .ok !deciding
  | t :: r => truth (eval scope t) >>= fun c => if c = deciding then .ok deciding else evalDeciding scope deciding r

theorem evalBoth_eq (ts : List Term) : evalBoth scope ts = evalDeciding scope false ts := by
  induction ts with
  | nil => rfl
  | cons t r ih =>
    rw [evalBoth, evalDeciding, ih]
    cases eval scope t with
    | error fault => rfl
    | ok v => cases hv : v.isTruthy <;> simp [truth, Except.map, bind, Except.bind, pure, Except.pure, hv]

theorem evalEither_eq (ts : List Term) : evalEither scope ts = evalDeciding scope true ts := by
  induction ts with
  | nil => rfl
  | cons t r ih =>
    rw [evalEither, evalDeciding, ih]
    cases eval scope t with
    | error fault => rfl
    | ok v => cases hv : v.isTruthy <;> simp [truth, Except.map, bind, Except.bind, pure, Except.pure, hv]

theorem truth_bool (x : Except Fault Bool) : truth (Value.bool <$> x) = x := by
  cases x <;> rfl

/-- The last operand decides whatever its truth is. -/
theorem deciding_last {t : Term} (h : TruthExact (Means scope t) (truth (eval scope t))) (deciding : Bool) :
    TruthExact (MeansDeciding scope deciding [t]) (evalDeciding scope deciding [t]) := by
  have same : evalDeciding scope deciding [t] = truth (eval scope t) := by
    rw [evalDeciding]
    cases truth (eval scope t) with
    | error fault => rfl
    | ok c => cases c <;> cases deciding <;> rfl
  rw [same]
  exact h.congr fun _ => meansDeciding_last_iff

theorem deciding_cons {deciding : Bool} {t u : Term} {r : List Term}
    (h : TruthExact (Means scope t) (truth (eval scope t)))
    (hr : TruthExact (MeansDeciding scope deciding (u :: r)) (evalDeciding scope deciding (u :: r))) :
    TruthExact (MeansDeciding scope deciding (t :: u :: r)) (evalDeciding scope deciding (t :: u :: r)) := by
  rw [evalDeciding]
  refine (h.truthStep fun v => ?_).congr fun _ => meansDeciding_cons_iff
  by_cases hv : v.isTruthy = deciding
  · have decided : TruthExact (fun o => o = .ok v) (.ok v.isTruthy) := (exact_shared (within_ok v)).truth
    simpa only [hv, if_true] using decided
  · simpa only [hv, if_false] using hr

theorem chain_cons {t : Term} {r : List (Comparison × Term)} (h : Exact (Means scope t) (eval scope t))
    (hr : ∀ left, Exact (MeansChain scope left r) (Value.bool <$> evalChain scope left r)) (left : Value)
    (op : Comparison) :
    Exact (MeansChain scope left ((op, t) :: r)) (Value.bool <$> evalChain scope left ((op, t) :: r)) := by
  have same : Value.bool <$> evalChain scope left ((op, t) :: r) =
      eval scope t >>= fun right => op.apply left right >>= fun holds =>
        if holds then Value.bool <$> evalChain scope right r else .ok (.bool false) := by
    rw [evalChain]
    cases eval scope t with
    | error fault => rfl
    | ok right =>
      cases ho : op.apply left right with
      | error fault => simp [ho, bind, Except.bind, Functor.map, Except.map]
      | ok holds => cases holds <;> simp [ho, bind, Except.bind, Functor.map, Except.map, pure, Except.pure]
  rw [same]
  refine (h.step fun right => ?_).congr fun _ => meansChain_cons_iff
  refine (exact_shared (classed_apply op left right).within).step fun holds => ?_
  cases holds with
  | true => exact hr right
  | false => exact exact_shared (within_ok _)

/-! ## Both languages agree -/

mutual

/-- A guard expression whose every `and` and `or` stands where only its truth is asked for comes to
what it means. -/
theorem agrees (free : ∀ id, (Builtin.ofName? id).isSome → scope.get? id = none) (t : Term) (truthOnly : Bool)
    (h : t.fits truthOnly = true) : Agrees scope t truthOnly := by
  match t with
  | .literal l => exact (exact_literal l).agrees truthOnly
  | .name id => exact (exact_name id).agrees truthOnly
  | .both terms =>
    obtain ⟨rfl, h⟩ := Bool.and_eq_true_iff.1 h
    rw [Agrees, eval, truth_bool, evalBoth_eq]
    exact (agreesDeciding free false terms h).congr fun _ => means_both_iff
  | .either terms =>
    obtain ⟨rfl, h⟩ := Bool.and_eq_true_iff.1 h
    rw [Agrees, eval, truth_bool, evalEither_eq]
    exact (agreesDeciding free true terms h).congr fun _ => means_either_iff
  | .unary op operand =>
    -- the one operator whose operand may be an `and` or `or`
    have ih := agrees free operand (op == .not) h
    cases op with
    | not => exact (exact_not ih).agrees truthOnly
    | minus => exact (exact_minus ih).agrees truthOnly
    | plus => exact (exact_forbidden rfl fun _ h => by cases h).agrees truthOnly
    | invert => exact (exact_forbidden rfl fun _ h => by cases h).agrees truthOnly
  | .compare first links =>
    obtain ⟨hf, hl⟩ := Bool.and_eq_true_iff.1 h
    have ih : Exact (Means scope first) (eval scope first) := agrees free first false hf
    refine Exact.agrees ?_ truthOnly
    rw [eval]
    exact (ih.step fun left => agreesChain free links hl left).congr fun _ => means_compare_iff
  | .choice test body other =>
    obtain ⟨h, ho⟩ := Bool.and_eq_true_iff.1 h
    obtain ⟨ht, hb⟩ := Bool.and_eq_true_iff.1 h
    exact (agrees free test true ht).choice (agrees free body truthOnly hb) (agrees free other truthOnly ho)
  | .attribute object field => exact (exact_attribute (agrees free object false h) field).agrees truthOnly
  | .call callee args hasKeywords =>
    exact (exact_call free (agreesAll free args h) callee hasKeywords).agrees truthOnly
  | .item object index =>
    obtain ⟨ho, hi⟩ := Bool.and_eq_true_iff.1 h
    exact (exact_item (agrees free object false ho) (agrees free index false hi)).agrees truthOnly
  | .list items => exact (exact_list (agreesAll free items h)).agrees truthOnly
  | .tuple items => exact (exact_tuple (agreesAll free items h)).agrees truthOnly
  | .unsupported kind => exact (exact_forbidden rfl fun _ h => by cases h).agrees truthOnly

theorem agreesAll (free : ∀ id, (Builtin.ofName? id).isSome → scope.get? id = none) (ts : List Term)
    (h : Term.allFit ts false = true) : Exact (MeansAll scope ts) (evalAll scope ts) := by
  match ts with
  | [] =>
    rw [evalAll]
    exact (exact_shared (within_ok _)).congr fun _ => meansAll_nil_iff
  | t :: r =>
    obtain ⟨ht, hr⟩ := Bool.and_eq_true_iff.1 h
    have iht : Exact (Means scope t) (eval scope t) := agrees free t false ht
    rw [evalAll]
    exact (iht.step fun v => (agreesAll free r hr).shared fun vs => within_ok _).congr fun _ => meansAll_cons_iff

theorem agreesDeciding (free : ∀ id, (Builtin.ofName? id).isSome → scope.get? id = none) (deciding : Bool)
    (ts : List Term) (h : Term.allFit ts true = true) :
    TruthExact (MeansDeciding scope deciding ts) (evalDeciding scope deciding ts) := by
  match ts with
  | [] =>
    have given : TruthExact (fun o => o = .ok (.bool !deciding)) (truth (.ok (.bool !deciding))) :=
      (exact_shared (within_ok _)).truth
    exact given.congr fun _ => meansDeciding_nil_iff
  | [t] => exact deciding_last (agrees free t true (Bool.and_eq_true_iff.1 h).1) deciding
  | t :: u :: r =>
    obtain ⟨ht, hr⟩ := Bool.and_eq_true_iff.1 h
    exact deciding_cons (agrees free t true ht) (agreesDeciding free deciding (u :: r) hr)

theorem agreesChain (free : ∀ id, (Builtin.ofName? id).isSome → scope.get? id = none)
    (links : List (Comparison × Term)) (h : Term.linksFit links = true) (left : Value) :
    Exact (MeansChain scope left links) (Value.bool <$> evalChain scope left links) := by
  match links with
  | [] =>
    have given : Exact (fun o => o = .ok (Value.bool true)) (.ok (.bool true)) := exact_shared (within_ok _)
    exact given.congr fun _ => meansChain_nil_iff
  | (op, t) :: r =>
    obtain ⟨ht, hr⟩ := Bool.and_eq_true_iff.1 h
    exact chain_cons (agrees free t false ht) (agreesChain free r hr) left op

end

/-! ## Expressions of guards -/

/-- Nothing in an expression is refused. -/
def Term.IsAllowed (t : Term) : Prop := ∀ s ∈ t.subs, s.isForbidden = false

theorem Permits.bind {α β : Type} {x : Except Fault α} {g : α → Except Fault β} (h : Permits x)
    (hg : ∀ a, Permits (g a)) : Permits (x >>= g) := by
  cases x with
  | ok a => exact hg a
  | error fault =>
    intro fault' h'
    cases h'
    exact h fault rfl

theorem permits_ok {α : Type} (a : α) : Permits (.ok a) := (classed_ok a).permits

mutual

/-- An expression without forbidden parts is not refused. -/
theorem permits_eval (t : Term) (h : t.IsAllowed) : Permits (eval scope t) := by
  -- nothing in the expression is forbidden, so it is not forbidden itself
  obtain ⟨head, parts⟩ : t.isForbidden = false ∧ ∀ s ∈ t.subs, s.isForbidden = false := ⟨h t t.mem_subs_self, h⟩
  match t with
  | .literal l =>
    rw [eval]
    exact permits_ok _
  | .name id =>
    rw [eval]
    split
    · exact permits_ok _
    · intro fault h
      cases h
      rfl
  | .both terms =>
    rw [Term.subs] at parts
    rw [eval, evalBoth_eq]
    exact (permits_deciding false terms (List.forall_mem_cons.1 parts).2).bind fun b => permits_ok _
  | .either terms =>
    rw [Term.subs] at parts
    rw [eval, evalEither_eq]
    exact (permits_deciding true terms (List.forall_mem_cons.1 parts).2).bind fun b => permits_ok _
  | .unary op operand =>
    rw [Term.subs] at parts
    have ih := permits_eval operand (List.forall_mem_cons.1 parts).2
    cases op with
    | not =>
      rw [eval]
      exact ih.bind fun v => permits_ok _
    | minus =>
      rw [eval]
      exact ih.bind fun v => (classed_negate v).permits
    | _ => cases head
  | .compare first links =>
    rw [Term.subs] at parts
    obtain ⟨hf, hl⟩ := List.forall_mem_append.1 (List.forall_mem_cons.1 parts).2
    rw [eval]
    exact (permits_eval first hf).bind fun left => (permits_chain links hl left).bind fun b => permits_ok _
  | .choice test body other =>
    rw [Term.subs] at parts
    obtain ⟨hr, ho⟩ := List.forall_mem_append.1 (List.forall_mem_cons.1 parts).2
    obtain ⟨ht, hb⟩ := List.forall_mem_append.1 hr
    rw [eval]
    refine (permits_eval test ht).bind fun v => ?_
    split
    · exact permits_eval body hb
    · exact permits_eval other ho
  | .attribute object field =>
    rw [Term.subs] at parts
    rw [eval, if_neg (by rw [show isPrivate field = false from head]; exact Bool.false_ne_true)]
    exact (permits_eval object (List.forall_mem_cons.1 parts).2).bind fun v => permits_attribute v field
  | .call callee args hasKeywords =>
    obtain ⟨named, rfl⟩ := Bool.or_eq_false_iff.1 head
    rw [Term.subs] at parts
    have ih := permits_all args (List.forall_mem_append.1 (List.forall_mem_cons.1 parts).2).2
    rw [eval]
    split
    · next hb =>
      rw [hb] at named
      cases named
    · exact ih.bind fun vs => (classed_builtin _ vs).permits
  | .item object index =>
    rw [Term.subs] at parts
    obtain ⟨ho, hi⟩ := List.forall_mem_append.1 (List.forall_mem_cons.1 parts).2
    rw [eval]
    exact (permits_eval object ho).bind fun v => (permits_eval index hi).bind fun i => (classed_itemAt v i).permits
  | .list items =>
    rw [Term.subs] at parts
    rw [eval]
    exact (permits_all items (List.forall_mem_cons.1 parts).2).bind fun vs => permits_ok _
  | .tuple items =>
    rw [Term.subs] at parts
    rw [eval]
    exact (permits_all items (List.forall_mem_cons.1 parts).2).bind fun vs => permits_ok _
  | .unsupported kind => cases head

theorem permits_all (ts : List Term) (h : ∀ s ∈ Term.subsAll ts, s.isForbidden = false) :
    Permits (evalAll scope ts) := by
  match ts with
  | [] => exact permits_ok _
  | t :: r =>
    obtain ⟨ht, hr⟩ := List.forall_mem_append.1 h
    rw [evalAll]
    exact (permits_eval t ht).bind fun v => (permits_all r hr).bind fun vs => permits_ok _

theorem permits_deciding (deciding : Bool) (ts : List Term) (h : ∀ s ∈ Term.subsAll ts, s.isForbidden = false) :
    Permits (evalDeciding scope deciding ts) := by
  match ts with
  | [] => exact permits_ok _
  | t :: r =>
    obtain ⟨ht, hr⟩ := List.forall_mem_append.1 h
    have iht : Permits (truth (eval scope t)) := (permits_eval t ht).bind fun v => permits_ok _
    rw [evalDeciding]
    refine iht.bind fun c => ?_
    split
    · exact permits_ok _
    · exact permits_deciding deciding r hr

theorem permits_chain (links : List (Comparison × Term)) (h : ∀ s ∈ Term.subsLinks links, s.isForbidden = false)
    (left : Value) : Permits (evalChain scope left links) := by
  match links with
  | [] => exact permits_ok _
  | (op, t) :: r =>
    obtain ⟨ht, hr⟩ := List.forall_mem_append.1 h
    rw [evalChain]
    refine (permits_eval t ht).bind fun right => (classed_apply op left right).permits.bind fun holds => ?_
    split
    · exact permits_chain r hr right
    · exact permits_ok _

end

/-- A function is asked for as a value. -/
def AsksFunction {α : Type} (o : Except Fault α) : Prop := ∃ fault, o = .error fault ∧ fault.isFunction = true

theorem Permits.within_iff {α : Type} {o : Except Fault α} (h : Permits o) : Within o ↔ ¬AsksFunction o := by
  constructor
  · rintro hw ⟨fault, ho, hf⟩
    cases hf.symm.trans (hw fault ho).2
  · intro hn fault ho
    exact ⟨h fault ho, Bool.eq_false_iff.2 fun hf => hn ⟨fault, ho, hf⟩⟩

/-- Where a scope binds none of the functions that guards may call, an expression comes to what it
means with two times `not` before every `and` and `or`. It comes to what it means itself if each of them
stands where only its truth is asked for, and it has the truth of what it means if it is asked for
that only. What asks for a function as a value is left out. -/
theorem eval_means (free : ∀ id, (Builtin.ofName? id).isSome → scope.get? id = none) {t : Term}
    (allowed : t.IsAllowed) :
    (∀ o, Means scope t.underNots o ↔ eval scope t = o ∧ ¬AsksFunction o) ∧
    (t.fits false = true → ∀ o, Means scope t o ↔ eval scope t = o ∧ ¬AsksFunction o) ∧
    (t.fits true = true →
      (∀ c, (∃ v, Means scope t (.ok v) ∧ v.isTruthy = c) ↔ ∃ v, eval scope t = .ok v ∧ v.isTruthy = c) ∧
      ∀ fault, Means scope t (.error fault) ↔
        eval scope t = .error fault ∧ ¬AsksFunction (.error fault : Except Fault Value)) := by
  have permits : Permits (eval scope t) := permits_eval t allowed
  have within : ∀ o, (eval scope t = o ∧ Within o) ↔ eval scope t = o ∧ ¬AsksFunction o := by
    intro o
    constructor
    · rintro ⟨rfl, h⟩
      exact ⟨rfl, permits.within_iff.1 h⟩
    · rintro ⟨rfl, h⟩
      exact ⟨rfl, permits.within_iff.2 h⟩
  refine ⟨fun o => ?_, fun fits o => ?_, fun fits => ?_⟩
  · -- under `not` every `and` and `or` is asked for its truth
    have h : Exact (Means scope t.underNots) (eval scope t.underNots) :=
      agrees free t.underNots false (fits_underNots t false)
    rw [h o, eval_underNots, within]
  · have h : Exact (Means scope t) (eval scope t) := agrees free t false fits
    rw [h o, within]
  · have h : TruthExact (Means scope t) (truth (eval scope t)) := agrees free t true fits
    constructor
    · intro c
      rw [h.holds]
      cases eval scope t <;> simp [truth, Except.map]
    · intro fault
      have same : (truth (eval scope t) = .error fault ∧ Within (.error fault : Except Fault Bool)) ↔
          eval scope t = .error fault ∧ Within (.error fault : Except Fault Value) := by
        cases eval scope t <;> simp [truth, Except.map]
      rw [h.fails, same, within]

end

/-! ## A default -/

/-- A comparison of the first of two texts that is not empty. -/
def defaulted : Term :=
  .compare (.either [.literal (.text ""), .literal (.text "a")]) [(.eq, .literal (.text "a"))]

/-- Whether a term is this comparison. -/
def isDefaulted : Term → Bool
  | .compare (.either [.literal (.text first), .literal (.text second)]) [(.eq, .literal (.text third))] =>
    first == "" && second == "a" && third == "a"
  | _ => false

theorem eq_of_isDefaulted {t : Term} (h : isDefaulted t = true) : t = defaulted := by
  unfold isDefaulted at h
  split at h
  · next first second third =>
    obtain ⟨⟨rfl, rfl⟩, rfl⟩ : (first = "" ∧ second = "a") ∧ third = "a" := by simpa using h
    rfl
  · cases h

theorem defaulted_read : read "('' or 'a') == 'a'" = .ok defaulted := by
  have h : (read "('' or 'a') == 'a'").toOption.any isDefaulted = true := by decide +kernel
  cases hr : read "('' or 'a') == 'a'" with
  | error fault => simp [hr, Except.toOption] at h
  | ok t =>
    rw [hr] at h
    rw [eq_of_isDefaulted h]

theorem defaulted_means (o : Except Fault Value) : Means [] defaulted o ↔ o = .ok (.bool true) := by
  have falsy : (Literal.text "").value.isTruthy = false := rfl
  have same : Comparison.eq.apply (Literal.text "a").value (Literal.text "a").value = .ok true := rfl
  simp [defaulted, means_compare_iff, means_either_iff, meansDeciding_cons_iff, meansDeciding_last_iff,
    meansChain_cons_iff, meansChain_nil_iff, means_literal_iff, Then, falsy, same]

/-- The comparison holds, as the default is equal to `'a'`. For guards it does not, as the truth value
of the default is not equal to `'a'`. -/
theorem defaulted_differs :
    read "('' or 'a') == 'a'" = .ok defaulted ∧ defaulted.IsAllowed ∧
    (∀ o, Means [] defaulted o ↔ o = .ok (.bool true)) ∧ eval [] defaulted = .ok (.bool false) := by
  refine ⟨defaulted_read, ?_, defaulted_means, rfl⟩
  simp [Term.IsAllowed, defaulted, Term.subs, Term.subsAll, Term.subsLinks, Term.isForbidden]

/-- A choice that asks for the truth of a default. -/
def chosen : Term := .choice (.either [.name "x", .literal (.int 1)]) (.name "x") (.literal .none)

/-- The default is chosen in both languages. -/
theorem chosen_means :
    (∀ id, (Builtin.ofName? id).isSome → Scope.get? [("x", .text "" .nowhere)] id = none) ∧ chosen.IsAllowed ∧
    Means [("x", .text "" .nowhere)] chosen (.ok (.text "" .nowhere)) := by
  have free : ∀ id, (Builtin.ofName? id).isSome → Scope.get? [("x", .text "" .nowhere)] id = none := by
    intro id hb
    by_cases h : id = "x"
    · subst h
      cases hb
    · simp [Scope.get?, Ne.symm h]
  have allowed : chosen.IsAllowed := by
    simp [Term.IsAllowed, chosen, Term.subs, Term.subsAll, Term.isForbidden]
  have answered : ¬AsksFunction (.ok (.text "" .nowhere) : Except Fault Value) := by
    rintro ⟨fault, failed, -⟩
    cases failed
  exact ⟨free, allowed, ((eval_means free allowed).2.1 rfl _).2 ⟨rfl, answered⟩⟩

end ChainLint.Guard
