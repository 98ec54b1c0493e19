import ChainLint.Proofs.AliasChain
/-!
# What a callee denotes, as a relation

`Denotes` says by rules what a callee stands for: an identity, nothing that is
known, or a contradiction in the crate. `denotes_iff` shows that resolution
gives the one answer that the rules give, whatever the graph of aliases is.
-/

namespace ChainLint

/-- What there is to say of a callee. -/
inductive Meaning
  | known (path : SymbolPath)
  | unknown
  | contradiction
deriving DecidableEq

/-- The meaning that an answer of the resolution has. -/
def Meaning.ofAnswer : Except Malformed (Option SymbolPath) → Meaning
  | .ok (some path) => .known path
  | .ok none => .unknown
  | .error _ => .contradiction

/-- The callee names no declaration. -/
inductive NamesNothing (c : Crate) : Option Expr → Prop
  | noCallee : NamesNothing c none
  | noPath {e : Expr} (kind : e.kind ≠ "Path") : NamesNothing c (some e)
  | noUse {e : Expr} (use : c.denotations.get? e.id = none) : NamesNothing c (some e)
  | isLocal {e : Expr} {use : Denotation} (entry : c.denotations.get? e.id = some use)
      (isLocal : use.isLocal = true) : NamesNothing c (some e)
  | noDeclaration {e : Expr} {use : Denotation} (entry : c.denotations.get? e.id = some use)
      (decl : use.decl = none) : NamesNothing c (some e)

/-- The callee is a path whose use names a declaration. -/
inductive Names (c : Crate) : Option Expr → Denotation → Int → Prop
  | path {e : Expr} {use : Denotation} {id : Int} (kind : e.kind = "Path")
      (entry : c.denotations.get? e.id = some use) (isGlobal : use.isLocal = false)
      (decl : use.decl = some id) : Names c (some e) use id

/-- What a method of a trait stands for, given the self type of its use. -/
inductive Dispatches (c : Crate) (method : Declaration) : Option Int → Meaning → Prop
  | noSelf : Dispatches c method none .unknown
  | missingSelf {ty : Int} (entry : c.types.types.get? ty = none) :
      Dispatches c method (some ty) .contradiction
  | openSelf {ty : Int} {self : TypeEntry} (entry : c.types.types.get? ty = some self)
      (isOpen : self.kind ∈ ["dyn", "param", "infer", "error"]) :
      Dispatches c method (some ty) .unknown
  | impl {ty i : Int} {self : TypeEntry} {d : Declaration} (entry : c.types.types.get? ty = some self)
      (closed : self.kind ∉ ["dyn", "param", "infer", "error"]) (impl : method.impls.get? ty = some i)
      (sound : ¬Broken c.declarations i) (ends : EndsAt c.declarations i d) :
      Dispatches c method (some ty) (.known ⟨d.path⟩)
  | brokenImpl {ty i : Int} {self : TypeEntry} (entry : c.types.types.get? ty = some self)
      (closed : self.kind ∉ ["dyn", "param", "infer", "error"]) (impl : method.impls.get? ty = some i)
      (broken : Broken c.declarations i) : Dispatches c method (some ty) .contradiction
  | byDefault {ty : Int} {self : TypeEntry} (entry : c.types.types.get? ty = some self)
      (closed : self.kind ∉ ["dyn", "param", "infer", "error"]) (noImpl : method.impls.get? ty = none)
      (default : method.hasDefault = true) : Dispatches c method (some ty) (.known ⟨method.path⟩)
  | undefined {ty : Int} {self : TypeEntry} (entry : c.types.types.get? ty = some self)
      (closed : self.kind ∉ ["dyn", "param", "infer", "error"]) (noImpl : method.impls.get? ty = none)
      (noDefault : method.hasDefault = false) : Dispatches c method (some ty) .unknown

/-- What a callee stands for. -/
inductive Denotes (c : Crate) (callee : Option Expr) : Meaning → Prop
  | nothing (nothing : NamesNothing c callee) : Denotes c callee .unknown
  | broken {use : Denotation} {id : Int} (names : Names c callee use id)
      (broken : Broken c.declarations id) : Denotes c callee .contradiction
  | declared {use : Denotation} {id : Int} {d : Declaration} (names : Names c callee use id)
      (sound : ¬Broken c.declarations id) (ends : EndsAt c.declarations id d)
      (kind : d.kind ≠ "trait_method") : Denotes c callee (.known ⟨d.path⟩)
  | method {use : Denotation} {id : Int} {d : Declaration} {m : Meaning}
      (names : Names c callee use id) (sound : ¬Broken c.declarations id)
      (ends : EndsAt c.declarations id d) (kind : d.kind = "trait_method")
      (dispatches : Dispatches c d use.selfType m) : Denotes c callee m

variable {c : Crate} {callee : Option Expr}

/-! ## Resolution follows the rules -/

/-- What dispatching a method means for its callee. -/
def Meaning.ofDispatch (r : Except Malformed (Option Declaration)) : Meaning :=
  .ofAnswer (Option.map (fun d => ⟨d.path⟩) <$> r)

theorem ofDispatch_of_dispatches {method : Declaration} {self : Option Int} {m : Meaning}
    (h : Dispatches c method self m) : Meaning.ofDispatch (c.dispatch method self) = m := by
  have ok : ∀ {ty entry}, c.types.types.get? ty = some entry → c.types.lookup ty = .ok entry :=
    fun h => by simp [TypeTable.lookup, h]
  cases h with
  | noSelf => rfl
  | missingSelf entry =>
    simp only [Crate.dispatch, TypeTable.lookup, entry]
    rfl
  | openSelf entry isOpen =>
    simp only [Crate.dispatch, ok entry, bind, Except.bind, openSelfKinds, List.contains_iff_mem, isOpen,
      if_true]
    rfl
  | impl entry closed impl sound ends =>
    simp only [Crate.dispatch, ok entry, bind, Except.bind, openSelfKinds, List.contains_iff_mem, closed,
      if_false, impl, declarationOf_ok_iff.2 ⟨sound, ends⟩]
    rfl
  | brokenImpl entry closed impl broken =>
    obtain ⟨fault, hf⟩ := declarationOf_error_iff.2 broken
    simp only [Crate.dispatch, ok entry, bind, Except.bind, openSelfKinds, List.contains_iff_mem, closed,
      if_false, impl, hf]
    rfl
  | byDefault entry closed noImpl default =>
    simp only [Crate.dispatch, ok entry, bind, Except.bind, openSelfKinds, List.contains_iff_mem, closed,
      if_false, noImpl, default, if_true]
    rfl
  | undefined entry closed noImpl noDefault =>
    simp only [Crate.dispatch, ok entry, bind, Except.bind, openSelfKinds, List.contains_iff_mem, closed,
      if_false, noImpl, noDefault, Bool.false_eq_true]
    rfl

/-- A callee that names nothing is answered from its use alone. -/
theorem resolve_of_nothing (h : NamesNothing c callee) : c.resolve callee = .ok none := by
  cases h with
  | noCallee => rfl
  | noPath kind => simp only [Crate.resolve, kind, ne_eq, not_false_eq_true, if_true]; rfl
  | noUse use => simp only [Crate.resolve, use]; split <;> rfl
  | isLocal entry isLocal => simp only [Crate.resolve, entry, isLocal, if_true]; split <;> rfl
  | noDeclaration entry decl =>
    simp only [Crate.resolve, entry, decl, ite_self]
    rfl

theorem resolve_of_names {use : Denotation} {id : Int} (h : Names c callee use id) :
    c.resolve callee = (do
      let d ← c.declarationOf id
      if d.kind = traitMethodKind then
        return (← c.dispatch d use.selfType).map fun i => ⟨i.path⟩
      else pure (some ⟨d.path⟩)) := by
  cases h with
  | path kind entry isGlobal decl =>
    simp only [Crate.resolve, kind, ne_eq, not_true_eq_false, if_false, entry, isGlobal, Bool.false_eq_true,
      decl]

theorem meaning_of_denotes {m : Meaning} (h : Denotes c callee m) :
    Meaning.ofAnswer (c.resolve callee) = m := by
  cases h with
  | nothing nothing => rw [resolve_of_nothing nothing]; rfl
  | broken names broken =>
    obtain ⟨fault, hf⟩ := declarationOf_error_iff.2 broken
    rw [resolve_of_names names, hf]
    rfl
  | declared names sound ends kind =>
    rw [resolve_of_names names, declarationOf_ok_iff.2 ⟨sound, ends⟩]
    simp only [bind, Except.bind, traitMethodKind, kind, if_false]
    rfl
  | method names sound ends kind dispatches =>
    rw [resolve_of_names names, declarationOf_ok_iff.2 ⟨sound, ends⟩, ← ofDispatch_of_dispatches dispatches]
    simp only [bind, Except.bind, traitMethodKind, kind, if_true, Meaning.ofDispatch]
    cases c.dispatch _ _ <;> rfl

/-! ## There is a rule for every callee -/

theorem exists_dispatches (c : Crate) (method : Declaration) (self : Option Int) :
    ∃ m, Dispatches c method self m := by
  cases self with
  | none => exact ⟨_, .noSelf⟩
  | some ty =>
    cases entry : c.types.types.get? ty with
    | none => exact ⟨_, .missingSelf entry⟩
    | some entry' =>
      by_cases isOpen : entry'.kind ∈ ["dyn", "param", "infer", "error"]
      · exact ⟨_, .openSelf entry isOpen⟩
      · cases impl : method.impls.get? ty with
        | some i =>
          cases hd : c.declarationOf i with
          | error fault => exact ⟨_, .brokenImpl entry isOpen impl (declarationOf_error_iff.1 ⟨fault, hd⟩)⟩
          | ok d =>
            obtain ⟨sound, ends⟩ := declarationOf_ok_iff.1 hd
            exact ⟨_, .impl entry isOpen impl sound ends⟩
        | none =>
          cases default : method.hasDefault with
          | true => exact ⟨_, .byDefault entry isOpen impl default⟩
          | false => exact ⟨_, .undefined entry isOpen impl default⟩

theorem names_or_nothing (c : Crate) (callee : Option Expr) :
    NamesNothing c callee ∨ ∃ use id, Names c callee use id := by
  cases callee with
  | none => exact .inl .noCallee
  | some e =>
    by_cases kind : e.kind = "Path"
    · cases entry : c.denotations.get? e.id with
      | none => exact .inl (.noUse entry)
      | some use =>
        cases isLocal : use.isLocal with
        | true => exact .inl (.isLocal entry isLocal)
        | false =>
          cases decl : use.decl with
          | none => exact .inl (.noDeclaration entry decl)
          | some id => exact .inr ⟨use, id, .path kind entry isLocal decl⟩
    · exact .inl (.noPath kind)

theorem exists_denotes (c : Crate) (callee : Option Expr) : ∃ m, Denotes c callee m := by
  rcases names_or_nothing c callee with nothing | ⟨use, id, names⟩
  · exact ⟨_, .nothing nothing⟩
  · cases hd : c.declarationOf id with
    | error fault => exact ⟨_, .broken names (declarationOf_error_iff.1 ⟨fault, hd⟩)⟩
    | ok d =>
      obtain ⟨sound, ends⟩ := declarationOf_ok_iff.1 hd
      by_cases kind : d.kind = "trait_method"
      · obtain ⟨m, dispatches⟩ := exists_dispatches c d use.selfType
        exact ⟨m, .method names sound ends kind dispatches⟩
      · exact ⟨_, .declared names sound ends kind⟩

/-- Resolution gives the one answer that the rules give: an identity, none or a contradiction. A
callee that names nothing is answered in the same way whatever the tables of types and of
declarations hold. Where declarations are listed under their own numbers, a chain meets a cycle
if and only if it comes to a number from which it leads back to that number. -/
theorem denotes_iff (c : Crate) (callee : Option Expr) :
    (∀ m, Denotes c callee m ↔ Meaning.ofAnswer (c.resolve callee) = m) ∧
    (NamesNothing c callee → ∀ types declarations,
      { c with types, declarations : Crate }.resolve callee = .ok none) ∧
    ((∀ k d, c.declarations.get? k = some d → d.id = k) → ∀ id, MeetsCycle c.declarations id ↔
      ∃ passed k loop, Leads c.declarations id passed k ∧ loop ≠ [] ∧
        Leads c.declarations k loop k) := by
  refine ⟨fun m => ⟨meaning_of_denotes, ?_⟩, fun h types declarations => ?_, meetsCycle_iff⟩
  · rintro rfl
    obtain ⟨m, h⟩ := exists_denotes c callee
    rwa [meaning_of_denotes h]
  · apply resolve_of_nothing
    cases h with
    | noCallee => exact .noCallee
    | noPath kind => exact .noPath kind
    | noUse use => exact .noUse use
    | isLocal entry isLocal => exact .isLocal entry isLocal
    | noDeclaration entry decl => exact .noDeclaration entry decl

end ChainLint
