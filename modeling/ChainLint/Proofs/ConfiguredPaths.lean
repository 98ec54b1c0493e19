import ChainLint.Proofs.Lockstep
import ChainLint.Proofs.InvalidRef
/-!
# Configured paths only add findings

`registration_only_adds`: with more paths registered, a unit gives what it gave
before, and besides only findings at nodes whose callee has one of the new
identities. Registering never changes the tag of an identity that has one
(`PathTable.Grows.lookup_of_not_mem`). Guards hand on a tag and never look at it
(`lookAlike_tagged`), so whether a guard holds, and whether a unit is given up,
does not depend on the table.
-/

namespace ChainLint

/-! ## Tables that grow -/

/-- The second table comes from the first one by registering some paths, maybe on copies that were
frozen in between. -/
inductive PathTable.Grows (t : PathTable) : List SymbolPath → PathTable → Prop
  | refl : Grows t [] t
  | register {new : List SymbolPath} {t' t'' : PathTable} {path : SymbolPath} {tag : String}
      (grows : Grows t new t') (registered : t'.register path tag = .ok t'') : Grows t (path :: new) t''
  | copy {new : List SymbolPath} {t' : PathTable} (grows : Grows t new t') : Grows t new t'.copy
  | freeze {new : List SymbolPath} {t' : PathTable} (grows : Grows t new t') : Grows t new t'.freeze

namespace PathTable

variable {t t' : PathTable} {new : List SymbolPath} {path : SymbolPath}

/-- A path that is registered had no tag, and no other path gets another tag. -/
theorem lookup_register {tag : String} (h : t.register path tag = .ok t') :
    t.lookup path = none ∧ ∀ p, t'.lookup p = if path = p then some tag else t.lookup p := by
  unfold register at h
  split at h
  · cases h
  · split at h
    · cases h
    · split at h
      · cases h
      · next unknown =>
        cases h
        exact ⟨unknown, fun p => Table.get?_insert ..⟩

theorem Grows.lookup_of_not_mem (h : t.Grows new t') (hp : path ∉ new) : t'.lookup path = t.lookup path := by
  induction h with
  | refl => rfl
  | @register new t' t'' added tag _ registered ih =>
    rw [List.mem_cons, not_or] at hp
    rw [(lookup_register registered).2, if_neg (Ne.symm hp.1), ih hp.2]
  | copy _ ih => exact ih hp
  | freeze _ ih => exact ih hp

theorem Grows.lookup_of_mem (h : t.Grows new t') (hp : path ∈ new) : t.lookup path = none := by
  induction h with
  | refl => cases hp
  | @register new t' t'' added tag grows registered ih =>
    by_cases hm : path ∈ new
    · exact ih hm
    · -- only now the path is added, and up to here the first table decides
      rw [← grows.lookup_of_not_mem hm, (List.mem_cons.1 hp).resolve_right hm]
      exact (lookup_register registered).1
  | copy _ ih => exact ih hp
  | freeze _ ih => exact ih hp

theorem Grows.registerAll {t'' : PathTable} {extra : List (SymbolPath × String)} (h : t.Grows new t')
    (hr : t'.registerAll extra = .ok t'') : t.Grows ((extra.map (·.1)).reverse ++ new) t'' := by
  induction extra generalizing t' new with
  | nil =>
    cases hr
    exact h
  | cons entry rest ih =>
    obtain ⟨next, hn, hr⟩ := exists_of_bind_eq_ok hr
    rw [List.map_cons, List.reverse_cons, List.append_assoc]
    exact ih (.register h hn) hr

/-- A table with configured paths comes from the standard table by registering these. -/
theorem grows_extended {extra : List (SymbolPath × String)} (h : extended extra = .ok t) :
    standard.Grows (extra.map (·.1)).reverse t := by
  obtain ⟨t', hr, h⟩ := exists_of_bind_eq_ok h
  cases h
  have grows := Grows.registerAll (.copy .refl) hr
  rw [List.append_nil] at grows
  exact .freeze grows

end PathTable

/-! ## Rules under two tables -/

/-- Whether the callee of a node has one of some identities. -/
def Crate.callsOneOf (c : Crate) (paths : List SymbolPath) (e : Expr) : Bool :=
  match c.resolve e.callee with
  | .ok (some path) => paths.contains path
  | _ => false

/-- What was found at a node under two tables: the same but for the tag, which each table gives to the
identity of the callee. -/
structure Bindings.Tagged (c : Crate) (e : Expr) (t t' : PathTable) (b b' : Bindings) : Prop where
  own : b.OwnCallee e
  callee : b'.callee = b.callee
  shape : b'.shape = b.shape
  symbol : (b.symbol = none ∧ b'.symbol = none) ∨ ∃ path, c.resolve e.callee = .ok (some path) ∧
    b.symbol = some (path, t.lookup path) ∧ b'.symbol = some (path, t'.lookup path)

/-- A finding that is there under both tables, or only under the second one. -/
def OnlyAdded (isNew : Bool) (before after : Option Diagnosis) : Prop := before = if isNew then none else after

section
variable {c : Crate} {u : CodeUnit} {e : Expr} {t t' : PathTable}

/-- No guard depends on the table. -/
theorem lookAlike_tagged : LookAlike (Bindings.Tagged c e t t') e e ⟨u, c, t⟩ ⟨u, c, t'⟩ := by
  refine ⟨rfl, rfl, ?_, rfl, ?_, ?_, ?_⟩
  · cases hc : e.callee with
    | none => exact .none
    | some callee => exact .some ⟨rfl, fun b b' hb => ⟨.inr hc.symm, rfl, hb.shape, hb.symbol⟩⟩
  · exact fun b b' shape hb => ⟨hb.own, hb.callee, rfl, hb.symbol⟩
  · exact fun b b' hb => by rw [hb.callee]
  · exact fun b b' path hb found => ⟨hb.own, hb.callee, hb.shape, .inr ⟨path, hb.own.or_eq ▸ found, rfl, rfl⟩⟩

/-- What is found under the larger table is found under the smaller one as well, unless the identity of
the callee is a new one. -/
theorem evaluate_grows {new : List SymbolPath} (h : t.Grows new t') {r : Rule} (hr : r.ByTag) :
    Alike (OnlyAdded (c.callsOneOf new e)) (r.evaluate e ⟨u, c, t⟩) (r.evaluate e ⟨u, c, t'⟩) := by
  refine lookAlike_tagged.evaluate hr ⟨.inl rfl, rfl, rfl, .inl ⟨rfl, rfl⟩⟩ (by simp [OnlyAdded])
    fun summaries b b' hb => ?_
  rw [OnlyAdded]
  rcases hb.symbol with ⟨none, none'⟩ | ⟨path, resolves, symbol, symbol'⟩
  · simp [Bindings.tag?, none, none']
  · by_cases hm : path ∈ new
    · -- under the smaller table the identity has no tag
      have isNew : c.callsOneOf new e = true := by simp [Crate.callsOneOf, resolves, hm]
      simp [Bindings.tag?, symbol, h.lookup_of_mem hm, isNew]
    · have isOld : c.callsOneOf new e = false := by simp [Crate.callsOneOf, resolves, hm]
      have same : b' = b := by
        have symbols : b'.symbol = b.symbol := by rw [symbol', symbol, h.lookup_of_not_mem hm]
        obtain ⟨-, callee, shape, -⟩ := hb
        cases b
        cases b'
        rw [Bindings.mk.injEq]
        exact ⟨callee, shape, symbols⟩
      rw [same, isOld]
      rfl

end

/-- With more paths registered, a unit is given up if and only if it was, and then for the same
contradiction. Any other unit gives all that it gave, in the same order, and the findings that come
to it are those at nodes whose callee has one of the new identities, where nothing was found before. -/
theorem registration_only_adds {registry : Registry} (hr : registry.Reachable)
    (hb : ∀ rule ∈ registry.rules, rule.ByTag) {paths paths' : PathTable} {new : List SymbolPath}
    (h : paths.Grows new paths') (crate : Crate) (u : CodeUnit) (memory memory' : Memory) :
    let before := analyzeUnit registry paths crate memory u
    let after := analyzeUnit registry paths' crate memory' u
    let found (p : Expr × Rule) := finding? (p.2.evaluate p.1 ⟨u, crate, paths'⟩)
    before.stopped = none ∧ after.stopped = none ∧ after.gaveUp = before.gaveUp ∧
      (before.gaveUp = true → after.diagnoses = before.diagnoses) ∧
      (before.gaveUp = false →
        before.diagnoses.Sublist after.diagnoses ∧
        after.diagnoses = (registry.pairs u.body).filterMap found ∧
        before.diagnoses = ((registry.pairs u.body).filter fun p => !crate.callsOneOf new p.1).filterMap found) := by
  intro before after found
  have alike : ∀ p ∈ offers registry u.body, Alike (OnlyAdded (crate.callsOneOf new p.1))
      (answer ⟨u, crate, paths⟩ p) (answer ⟨u, crate, paths'⟩ p) :=
    fun p hp => evaluate_grows h (hb p.2 (hr.rule_of_offer hp))
  have halts := firstHalt?_forall₂ (List.forall₂_same.2 fun p hp => (alike p hp).1)
  obtain ⟨stopped, stopped', ⟨sound, sound', given, given'⟩ | ⟨fault, given, given'⟩⟩ :=
    units_of_halts hr hb halts memory memory'
  · have after_eq : after.diagnoses = (registry.pairs u.body).filterMap found := by
      rw [← hr.offers_eq]
      exact given'
    have before_eq : before.diagnoses =
        ((registry.pairs u.body).filter fun p => !crate.callsOneOf new p.1).filterMap found := by
      rw [← hr.offers_eq, List.filterMap_filter]
      refine given.trans (List.filterMap_congr fun p hp => ?_)
      rw [(alike p hp).2]
      cases crate.callsOneOf new p.1 <;> rfl
    refine ⟨stopped, stopped', sound'.trans sound.symm, fun up => absurd (sound.symm.trans up) Bool.false_ne_true,
      fun _ => ⟨?_, after_eq, before_eq⟩⟩
    rw [after_eq, before_eq]
    exact List.filter_sublist.filterMap found
  · -- both are given up, so nothing is left to show of sound units
    refine ⟨stopped, stopped', (gaveUp_ofMalformed given').trans (gaveUp_ofMalformed given).symm,
      fun _ => given'.trans given.symm, fun sound => ?_⟩
    exact absurd (sound.symm.trans (gaveUp_ofMalformed given)) Bool.false_ne_true

/-! ## A crate with a function of its own that fills memory with zeros -/

/-- The crate in which both calls give references, and the second one calls another function. -/
def ownZeroedCrate : Crate :=
  { halfSoundCrate with
    types := ⟨halfSoundCrate.types.types, ⟨[(2, 1), (4, 1)]⟩⟩
    declarations := ⟨[(7, { id := 7, path := ["core", "mem", "zeroed"] }), (8, { id := 8, path := ["app", "blank"] })]⟩
    denotations := ⟨[(3, { decl := some 7 }), (5, { decl := some 8 })]⟩ }

/-- The standard table with the path of this function. -/
def ownPaths : PathTable :=
  ⟨⟨PathTable.standardEntries ++ [(⟨["app", "blank"]⟩, "zero_fill")]⟩, true⟩

theorem ownPaths_extended : PathTable.extended [(⟨["app", "blank"]⟩, "zero_fill")] = .ok ownPaths := rfl

theorem ownZeroedCrate_resolve :
    ownZeroedCrate.resolve (zeroedCall 2).callee = .ok (some ⟨["core", "mem", "zeroed"]⟩) ∧
    ownZeroedCrate.resolve (zeroedCall 4).callee = .ok (some ⟨["app", "blank"]⟩) := by
  simp [Crate.resolve, Crate.declarationOf, chase, zeroedCall, ownZeroedCrate, halfSoundCrate, Table.get?,
    Table.find?, Declaration.isAlias, aliasKinds, traitMethodKind, pure, Except.pure, bind, Except.bind]

/-- The finding at one of the calls. -/
def ownFinding (id : Int) (path : SymbolPath) : Diagnosis :=
  memoryFinding halfSound (zeroedCall id) { id := id + 1, kind := "Path", path := some "zeroed" } path "null reference"

theorem ownZeroedCrate_found :
    answer ⟨halfSound, ownZeroedCrate, ownPaths⟩ (zeroedCall 2, invalidRef) =
      .ok (.matched (ownFinding 2 ⟨["core", "mem", "zeroed"]⟩)) ∧
    answer ⟨halfSound, ownZeroedCrate, ownPaths⟩ (zeroedCall 4, invalidRef) =
      .ok (.matched (ownFinding 4 ⟨["app", "blank"]⟩)) := by
  have known : ("zero_fill", "null reference") ∈ memorySummaries := by decide
  constructor
  · exact evaluate_of_finds (.found ⟨rfl, rfl, rfl, rfl⟩ ⟨1, _, rfl, rfl, rfl⟩ ownZeroedCrate_resolve.1 rfl known)
  · exact evaluate_of_finds (.found ⟨rfl, rfl, rfl, rfl⟩ ⟨1, _, rfl, rfl, rfl⟩ ownZeroedCrate_resolve.2 rfl known)

/-- The call of the other function is found once its path is configured. -/
theorem ownZeroed_added :
    (∀ rule ∈ Registry.standard.rules, rule.ByTag) ∧
    PathTable.standard.Grows [⟨["app", "blank"]⟩] ownPaths ∧
    (analyzeUnit .standard .standard ownZeroedCrate .empty halfSound).diagnoses =
      [ownFinding 2 ⟨["core", "mem", "zeroed"]⟩] ∧
    (analyzeUnit .standard ownPaths ownZeroedCrate .empty halfSound).diagnoses =
      [ownFinding 2 ⟨["core", "mem", "zeroed"]⟩, ownFinding 4 ⟨["app", "blank"]⟩] := by
  have byTag : ∀ rule ∈ Registry.standard.rules, rule.ByTag :=
    List.forall_mem_singleton.2 (Rule.Blind.byTag ⟨.inl rfl, by decide⟩)
  have grows := PathTable.grows_extended ownPaths_extended
  obtain ⟨first, second⟩ := ownZeroedCrate_found
  have offered := (Registry.reachable_standard.offers_eq halfSound.body).trans halfSound_pairs
  have sound : firstHalt? ⟨halfSound, ownZeroedCrate, ownPaths⟩ (offers .standard halfSound.body) = none := by
    simp [offered, firstHalt?, first, second, halt?]
  obtain ⟨-, -, gaveUp, -, added⟩ := registration_only_adds Registry.reachable_standard byTag grows
    ownZeroedCrate halfSound .empty .empty
  obtain ⟨-, after, before⟩ := added (gaveUp.symm.trans (unit_of_no_halt sound .empty).2.1)
  have old : ownZeroedCrate.callsOneOf [⟨["app", "blank"]⟩] (zeroedCall 2) = false := by
    simp [Crate.callsOneOf, ownZeroedCrate_resolve.1]
  have new : ownZeroedCrate.callsOneOf [⟨["app", "blank"]⟩] (zeroedCall 4) = true := by
    simp [Crate.callsOneOf, ownZeroedCrate_resolve.2]
  rw [answer] at first second
  refine ⟨byTag, grows, before.trans ?_, after.trans ?_⟩
  · simp [halfSound_pairs, old, new, first, finding?]
  · simp [halfSound_pairs, first, second, finding?]

end ChainLint
