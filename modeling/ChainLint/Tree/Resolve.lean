import ChainLint.Tree.Crate
/-!
# What a callee denotes

A callee is identified by the path of the declaration it stands for, whatever
it is called at the call: aliases are followed to their end, and a method of a
trait is dispatched on the self type. Locals, and self types that are not known
statically, give no identity.
-/

namespace ChainLint

/-- The identity of a declaration: the path where it was declared. -/
structure SymbolPath where
  segments : List String
deriving DecidableEq, Repr

/-- The path with double colons between segments. -/
def SymbolPath.text (p : SymbolPath) : String := joinPath p.segments

/-- The kinds of declarations that stand for another one. -/
def aliasKinds : List String := ["reexport", "use"]

/-- The kind of methods that traits declare. -/
def traitMethodKind : String := "trait_method"

/-- The kinds of self types for which the implementation is not known statically. -/
def openSelfKinds : List String := ["dyn", "param", "infer", "error"]

/-- Whether the declaration stands for another one. -/
def Declaration.isAlias (d : Declaration) : Bool := aliasKinds.contains d.kind

theorem Table.mem_of_get? {t : Table Int Declaration} {k : Int} {d : Declaration}
    (h : t.get? k = some d) : ∃ e ∈ t.entries, e.2 = d := by
  have key : ∀ l : List (Int × Declaration), Table.find? k l = some d → ∃ e ∈ l, e.2 = d := by
    intro l
    induction l with
    | nil => simp
    | cons e r ih =>
      obtain ⟨a, b⟩ := e
      unfold Table.find?
      split
      · intro hb; exact ⟨(a, b), by simp, by simpa using hb⟩
      · intro hb
        obtain ⟨e, he, hd⟩ := ih hb
        exact ⟨e, by simp [he], hd⟩
  exact key t.entries h

/-- How many declarations of a table are not among the seen ones. -/
def unseen (t : Table Int Declaration) (seen : List Int) : Nat :=
  t.entries.countP fun e => !seen.contains e.2.id

theorem unseen_lt {t : Table Int Declaration} {seen : List Int} {d : Declaration}
    (hd : ∃ e ∈ t.entries, e.2 = d) (hs : seen.contains d.id = false) :
    unseen t (d.id :: seen) < unseen t seen := by
  obtain ⟨e, he, rfl⟩ := hd
  unfold unseen
  rw [List.countP_eq_length_filter, List.countP_eq_length_filter]
  have hsub : (t.entries.filter fun x => !(e.2.id :: seen).contains x.2.id) =
      (t.entries.filter fun x => !seen.contains x.2.id).filter fun x => x.2.id ≠ e.2.id := by
    rw [List.filter_filter]
    apply List.filter_congr
    intro x _
    by_cases hx : x.2.id = e.2.id <;> simp [hx]
  rw [hsub]
  apply List.length_filter_lt_length_iff_exists.2
  exact ⟨e, by simp_all, by simp⟩

/-- Follows targets from a declaration to the first one that is no alias. An alias met for the
second time closes a cycle. -/
def chase (t : Table Int Declaration) (seen : List Int) (id : Int) : Except Malformed Declaration :=
  match _h : t.get? id with
  | none => .error (.missingDeclaration id)
  | some d =>
    if d.isAlias then
      if _hs : seen.contains d.id then .error (.aliasCycle d.path)
      else
        match d.target with
        | none => .error (.aliasWithoutTarget d.kind d.path)
        | some target => chase t (d.id :: seen) target
    else .ok d
termination_by unseen t seen
decreasing_by exact unseen_lt (Table.mem_of_get? _h) (by simpa using _hs)

namespace Crate

/-- The declaration at the end of the aliases that start at a number. -/
def declarationOf (c : Crate) (id : Int) : Except Malformed Declaration := chase c.declarations [] id

/-- The declaration that a trait method stands for, given the self type of the use. -/
def dispatch (c : Crate) (method : Declaration) (selfType : Option Int) :
    Except Malformed (Option Declaration) := do
  match selfType with
  | none => pure none
  | some ty =>
    let entry ← c.types.lookup ty
    if openSelfKinds.contains entry.kind then pure none
    else
      match method.impls.get? ty with
      | some impl => some <$> c.declarationOf impl
      | none => pure (if method.hasDefault then some method else none)

/-- The identity of what a callee denotes, if it is known statically. -/
def resolve (c : Crate) (callee : Option Expr) : Except Malformed (Option SymbolPath) := do
  let some e := callee | pure none
  if e.kind ≠ "Path" then pure none
  else
    let some use := c.denotations.get? e.id | pure none
    if use.isLocal then pure none
    else
      let some id := use.decl | pure none
      let d ← c.declarationOf id
      if d.kind = traitMethodKind then
        return (← c.dispatch d use.selfType).map fun i => ⟨i.path⟩
      else pure (some ⟨d.path⟩)

end Crate

end ChainLint
