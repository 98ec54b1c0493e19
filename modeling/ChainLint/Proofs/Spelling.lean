import ChainLint.Proofs.Containment
import ChainLint.Proofs.InvalidRef
/-!
# How a path is spelled does not matter

`spelling_independent`: however the paths of a crate are written, and whichever
aliases of the same declarations they go through, every unit gives the same, up
to the text of the callee that a finding quotes. Resolution factors through the
end of the chain of aliases (`Crate.Respelled.resolve`), and the text written at
a path is quoted but never looked at, so every rule goes the same way at two
trees that differ in spelling only (`Crate.Respelled.evaluate`).
-/

namespace ChainLint

/-! ## Other spellings -/

/-- Trees that differ only in the texts of paths and in the type arguments written after them. -/
inductive Expr.Respelled : Expr → Expr → Prop
  | node {e e' : Expr} (id : e'.id = e.id) (kind : e'.kind = e.kind) (span : e'.span = e.span)
      (text : e'.text = e.text) (callee : Option.Rel Expr.Respelled e.callee e'.callee)
      (args : List.Forall₂ Expr.Respelled e.args e'.args)
      (children : List.Forall₂ Expr.Respelled e.children e'.children) : Expr.Respelled e e'

/-- Units whose trees differ in spelling only. -/
structure CodeUnit.Respelled (u u' : CodeUnit) : Prop where
  name : u'.name = u.name
  file : u'.file = u.file
  body : u.body.Respelled u'.body

/-- The chains from both numbers end, without going wrong, at one declaration. -/
def SameEnd (t : Table Int Declaration) (id id' : Int) : Prop :=
  ∃ d, (¬Broken t id ∧ EndsAt t id d) ∧ ¬Broken t id' ∧ EndsAt t id' d

/-- Uses of a path that name one declaration, maybe through other aliases and with other generic
arguments. -/
structure Denotation.Respelled (t : Table Int Declaration) (use use' : Denotation) : Prop where
  isLocal : use'.isLocal = use.isLocal
  selfType : use'.selfType = use.selfType
  decl : use'.decl = use.decl ∨ ∃ id id', use.decl = some id ∧ use'.decl = some id' ∧ SameEnd t id id'

/-- Crates that differ only in how their paths are spelled. -/
structure Crate.Respelled (c c' : Crate) : Prop where
  types : c'.types = c.types
  declarations : c'.declarations = c.declarations
  denotations : ∀ node, Option.Rel ( Denotation.Respelled c.declarations)
    (c.denotations.get? node) (c'.denotations.get? node)
  units : List.Forall₂ CodeUnit.Respelled c.units c'.units

/-- A finding without the text of the callee. -/
def Diagnosis.unspelled (d : Diagnosis) : Diagnosis :=
  { d with extras := d.extras.filter fun e => e.1 ≠ "callee_text" }

/-- Findings that differ at most in the text of the callee. -/
def SameUnspelled (x y : Option Diagnosis) : Prop := x.map Diagnosis.unspelled = y.map Diagnosis.unspelled

/-! ## Trees -/

theorem forall₂_toList {α β : Type} {R : α → β → Prop} {o : Option α} {o' : Option β} (h : Option.Rel R o o') :
    List.Forall₂ R o.toList o'.toList := by
  cases h with
  | none => exact .nil
  | some h => exact .cons h .nil

namespace Expr.Respelled

variable {e e' : Expr}

theorem parts (h : e.Respelled e') : List.Forall₂ Expr.Respelled e.parts e'.parts := by
  obtain ⟨-, -, -, -, callee, args, children⟩ := h
  exact List.rel_append (List.rel_append (forall₂_toList callee) args) children

/-- Trees that differ in spelling are walked in step. -/
theorem preorder {e e' : Expr} (h : e.Respelled e') : List.Forall₂ Expr.Respelled e.preorder e'.preorder := by
  have parts : List.Forall₂ (fun p p' => p ∈ e.parts ∧ p.Respelled p') e.parts e'.parts :=
    (List.forall₂_and_left _ _).2 ⟨fun _ hp => hp, h.parts⟩
  -- parts stand in three lists of a node, so the recursion is on the size
  rw [Expr.preorder_eq, Expr.preorder_eq e']
  exact .cons h (List.rel_flatMap parts fun p p' hp => hp.2.preorder)
termination_by sizeOf e
decreasing_by exact sizeOf_part hp.1

theorem location {u u' : CodeUnit} (h : e.Respelled e') (hu : u.Respelled u') :
    e'.location u' = e.location u := by
  obtain ⟨-, -, span, -⟩ := h
  rw [Expr.location, Expr.location, span, hu.file]

end Expr.Respelled

/-! ## What a callee denotes -/

namespace Crate.Respelled

variable {c c' : Crate}

theorem agreeOn (h : c.Respelled c') : c.AgreeOn c' [] :=
  ⟨by rw [h.types], h.declarations.symm, nofun, nofun⟩

/-- Uses that name one declaration lead to it in both crates, or to the same contradiction. -/
theorem declarationOf_use (h : c.Respelled c') {use use' : Denotation} (hu : use.Respelled c.declarations use') :
    use'.decl.map c'.declarationOf = use.decl.map c.declarationOf := by
  rw [← h.agreeOn.declarationOf_eq]
  rcases hu.decl with same | ⟨id, id', decl, decl', d, ends, ends'⟩
  · rw [same]
  · rw [decl, decl', Option.map_some, Option.map_some, declarationOf_ok_iff.2 ends, declarationOf_ok_iff.2 ends']

/-- What a callee denotes hangs on where the aliases end, also for a method of a trait. -/
theorem resolve (h : c.Respelled c') {callee callee' : Option Expr}
    (hc : Option.Rel Expr.Respelled callee callee') : c'.resolve callee' = c.resolve callee := by
  cases hc with
  | none => rfl
  | @some e e' he =>
    obtain ⟨id, kind, -⟩ := he
    have hu := h.denotations e.id
    simp only [Crate.resolve, id, kind, ← h.agreeOn.dispatch_eq]
    generalize c.denotations.get? e.id = found, c'.denotations.get? e.id = found' at hu
    cases hu with
    | none => rfl
    | @some use use' same =>
      have decl := h.declarationOf_use same
      simp only [same.isLocal, same.selfType]
      -- a method of a trait is dispatched on the type of the use, which is the same; the declaration is left
      generalize use.decl = named, use'.decl = named' at decl
      rcases named with _ | id <;> rcases named' with _ | id'
      · rfl
      · cases decl
      · cases decl
      · simp only [Option.some.inj decl]

end Crate.Respelled

/-! ## Rules -/

/-- What was found in trees that differ in spelling only. -/
structure Bindings.Respelled (b b' : Bindings) : Prop where
  callee : Option.Rel Expr.Respelled b.callee b'.callee
  shape : b'.shape = b.shape
  symbol : b'.symbol = b.symbol

theorem Bindings.Respelled.or {e e' : Expr} {b b' : Bindings} (hb : b.Respelled b')
    (hc : Option.Rel Expr.Respelled e.callee e'.callee) :
    Option.Rel Expr.Respelled (b.callee.or e.callee) (b'.callee.or e'.callee) := by
  obtain ⟨callee, -, -⟩ := hb
  generalize b.callee = x, b'.callee = y at callee
  cases callee with
  | none => exact hc
  | some h => exact .some h

/-- Nothing but the quoted text of the callee tells the spelling. -/
theorem extras_unspelled (b : Bindings) (e : Expr) :
    (Rule.extras b e).filter (fun x => x.1 ≠ "callee_text") = Rule.extras { b with callee := none } e := by
  have quoted : ∀ o : Option String, (o.toList.filterMap fun p =>
      if p = "" then none else some ("callee_text", Datum.text p)).filter (fun x => x.1 ≠ "callee_text") = [] := by
    rintro (_ | p)
    · rfl
    · by_cases hp : p = "" <;> simp [hp]
  have snippet : ∀ o : Option String, (o.toList.filterMap fun t =>
      if t = "" then none else some ("snippet", Datum.text t)).filter (fun x => x.1 ≠ "callee_text") =
        o.toList.filterMap fun t => if t = "" then none else some ("snippet", Datum.text t) := by
    rintro (_ | t)
    · rfl
    · by_cases ht : t = "" <;> simp [ht]
  rw [Rule.extras, Rule.extras, List.filter_append, List.filter_append, List.filter_append, quoted, snippet]
  cases b.symbol <;> cases b.shape <;> simp

theorem unspelled_diagnose {r : Rule} {e e' : Expr} {u u' : CodeUnit} {b b' : Bindings} (he : e.Respelled e')
    (hu : u.Respelled u') (hb : b.Respelled b') (summary : String) :
    (r.diagnose e' u' b' summary).unspelled = (r.diagnose e u b summary).unspelled := by
  have location := he.location hu
  obtain ⟨-, -, -, text, -⟩ := he
  have extras : Rule.extras { b' with callee := none } e' = Rule.extras { b with callee := none } e := by
    simp only [Rule.extras, hb.shape, hb.symbol, text]
  simp only [Diagnosis.unspelled, Rule.diagnose, extras_unspelled, location, hu.name, extras]

section
variable {c c' : Crate} {u u' : CodeUnit} {e e' : Expr} {paths : PathTable}

/-- Guards look up the same at two nodes that differ in spelling only. -/
theorem Crate.Respelled.lookAlike (h : c.Respelled c') (he : e.Respelled e') :
    LookAlike Bindings.Respelled e e' ⟨u, c, paths⟩ ⟨u', c', paths⟩ := by
  obtain ⟨id, kind, -, -, callee, args, -⟩ := he
  refine ⟨kind, args.length_eq.symm, ?_, ?_, ?_, ?_, ?_⟩
  · generalize e.callee = x, e'.callee = y at callee
    cases callee with
    | none => exact .none
    | some same =>
      have ⟨_, kind, _, _, _, _, _⟩ := same
      exact .some ⟨kind, fun b b' hb => ⟨.some same, hb.shape, hb.symbol⟩⟩
  · simp only [h.types, id]
  · exact fun b b' shape hb => ⟨hb.callee, rfl, hb.symbol⟩
  · exact fun b b' hb => h.resolve (hb.or callee)
  · exact fun b b' path hb _ => ⟨hb.callee, hb.shape, rfl⟩

/-- Answers are alike but for the text of the callee. -/
theorem Crate.Respelled.evaluate (h : c.Respelled c') (hu : u.Respelled u') (he : e.Respelled e') {r : Rule}
    (hr : r.ByTag) :
    Alike SameUnspelled (r.evaluate e ⟨u, c, paths⟩) (r.evaluate e' ⟨u', c', paths⟩) := by
  refine (h.lookAlike he).evaluate hr ⟨.none, rfl, rfl⟩ rfl fun summaries b b' hb => ?_
  have tag : b'.tag? = b.tag? := by rw [Bindings.tag?, hb.symbol, Bindings.tag?]
  rw [SameUnspelled, tag, Option.map_map, Option.map_map]
  congr 1
  funext summary
  exact (unspelled_diagnose he hu hb summary).symm

/-! ## Units -/

variable {registry : Registry}

/-- The same rules are offered nodes that differ in spelling only. -/
theorem Expr.Respelled.pairs (he : e.Respelled e') (registry : Registry) :
    List.Forall₂ (fun p p' => p.1.Respelled p'.1 ∧ p'.2 = p.2 ∧ p.2 ∈ registry.rules)
      (registry.pairs e) (registry.pairs e') := by
  refine List.rel_flatMap he.preorder fun n n' hn => ?_
  have same := hn
  obtain ⟨-, kind, -⟩ := hn
  rw [kind, List.forall₂_map_left_iff, List.forall₂_map_right_iff, List.forall₂_same]
  exact fun rule hm => ⟨same, rfl, (List.mem_filter.1 hm).1⟩

end

/-- However the paths of a crate are spelled, every unit gives the same, the internal diagnosis
included, up to the texts of callees. A path may be written in another way and with other type
arguments, and its use may name another number from which aliases lead to the same declaration. -/
theorem spelling_independent {registry : Registry} (hr : registry.Reachable)
    (hb : ∀ rule ∈ registry.rules, rule.Blind) (paths : PathTable) {c c' : Crate} (h : c.Respelled c') :
    List.Forall₂ (fun u u' => ∀ memory memory' : Memory,
      let before := analyzeUnit registry paths c memory u
      let after := analyzeUnit registry paths c' memory' u'
      before.stopped = none ∧ after.stopped = none ∧
        after.diagnoses.map Diagnosis.unspelled = before.diagnoses.map Diagnosis.unspelled)
      c.units c'.units := by
  refine h.units.imp fun u u' hu memory memory' => ?_
  have byTag : ∀ rule ∈ registry.rules, rule.ByTag := fun rule hm => (hb rule hm).byTag
  have alike : List.Forall₂
      (fun p p' => Alike SameUnspelled (answer ⟨u, c, paths⟩ p) (answer ⟨u', c', paths⟩ p'))
      (offers registry u.body) (offers registry u'.body) := by
    rw [hr.offers_eq, hr.offers_eq]
    refine (hu.body.pairs registry).imp fun p p' ⟨he, same, hm⟩ => ?_
    rw [answer, answer, same]
    exact h.evaluate hu he (byTag p.2 hm)
  have halts := firstHalt?_forall₂ (alike.imp fun _ _ h => h.1)
  obtain ⟨stopped, stopped', ⟨-, -, found, found'⟩ | ⟨fault, given, given'⟩⟩ :=
    units_of_halts hr byTag halts memory memory'
  · refine ⟨stopped, stopped', ?_⟩
    rw [found, found', List.map_filterMap, List.map_filterMap]
    exact (filterMap_forall₂ (alike.imp fun _ _ h => h.2)).symm
  · -- the internal diagnosis tells name and place of the unit, which nothing spells
    have same : Diagnosis.ofMalformed u' fault = Diagnosis.ofMalformed u fault := by
      simp only [Diagnosis.ofMalformed, hu.name, hu.body.location hu]
    exact ⟨stopped, stopped', by rw [given, given', same]⟩

/-! ## A call through two aliases -/

/-- The crate with two aliases of the function that fills memory with zeros. -/
def aliasedCrate : Crate :=
  { wholeCrate with
    declarations := ⟨[(7, { id := 7, path := ["core", "mem", "zeroed"] }),
      (8, { id := 8, path := ["std", "mem", "zeroed"], kind := "reexport", target := some 7 }),
      (9, { id := 9, path := ["app", "blank"], kind := "use", target := some 8 })]⟩ }

/-- A call of the same function under another name. -/
def blankCall (id : Int) : Expr :=
  { id, kind := "Call", callee := some { id := id + 1, kind := "Path", path := some "blank", typeArgs := ["&u8"] } }

/-- The unit with both calls written in this way. -/
def blankUnit : CodeUnit :=
  ⟨"half_sound", "a.rs", { id := 1, kind := "Block", children := [blankCall 2, blankCall 4] }⟩

/-- The crate with this unit, in which both calls go through both aliases. -/
def blankCrate : Crate :=
  { aliasedCrate with
    units := [blankUnit, idle]
    denotations := ⟨[(3, { decl := some 9, genericArgs := [1] }), (5, { decl := some 9 })]⟩ }

theorem blankCall_respelled (id : Int) : (zeroedCall id).Respelled (blankCall id) :=
  .node rfl rfl rfl rfl (.some (.node rfl rfl rfl rfl .none .nil .nil)) .nil .nil

theorem aliasedCrate_sameEnd : SameEnd aliasedCrate.declarations 7 9 := by
  refine ⟨{ id := 7, path := ["core", "mem", "zeroed"] }, declarationOf_ok_iff.1 ?_, declarationOf_ok_iff.1 ?_⟩ <;>
    simp [Crate.declarationOf, chase, aliasedCrate, Table.get?, Table.find?, Declaration.isAlias, aliasKinds]

theorem blankCrate_respelled : aliasedCrate.Respelled blankCrate where
  types := rfl
  declarations := rfl
  denotations node := by
    have use : ∀ args, Denotation.Respelled aliasedCrate.declarations { decl := some 7 }
        { decl := some 9, genericArgs := args } :=
      fun args => ⟨rfl, rfl, .inr ⟨7, 9, rfl, rfl, aliasedCrate_sameEnd⟩⟩
    by_cases first : 3 = node
    · subst first
      exact .some (use [1])
    · by_cases second : 5 = node
      · subst second
        exact .some (use [])
      · simp [aliasedCrate, blankCrate, wholeCrate, halfSoundCrate, Table.get?, Table.find?, first, second]
  units := .cons ⟨rfl, rfl, .node rfl rfl rfl rfl .none .nil
    (.cons (blankCall_respelled 2) (.cons (blankCall_respelled 4) .nil))⟩
    (.cons ⟨rfl, rfl, .node rfl rfl rfl rfl .none .nil .nil⟩ .nil)

/-- What is found at the first call. -/
def zeroedFinding : Diagnosis :=
  memoryFinding halfSound (zeroedCall 2) { id := 3, kind := "Path", path := some "zeroed" }
    ⟨["core", "mem", "zeroed"]⟩ "null reference"

theorem aliasedCrate_finds : Finds aliasedCrate .standard halfSound (zeroedCall 2) zeroedFinding := by
  have known : ("zero_fill", "null reference") ∈ memorySummaries := by decide
  refine .found ⟨rfl, rfl, rfl, rfl⟩ ⟨1, _, rfl, rfl, rfl⟩ ?_ rfl known
  simp [Crate.resolve, Crate.declarationOf, chase, aliasedCrate, wholeCrate, halfSoundCrate, Table.get?, Table.find?,
    Declaration.isAlias, aliasKinds, traitMethodKind, pure, Except.pure, bind, Except.bind]

theorem aliasedCrate_found :
    (analyzeUnit .standard .standard aliasedCrate .empty halfSound).diagnoses = [zeroedFinding] := by
  have first : answer ⟨halfSound, aliasedCrate, .standard⟩ (zeroedCall 2, invalidRef) = .ok (.matched zeroedFinding) :=
    evaluate_of_finds aliasedCrate_finds
  have second : answer ⟨halfSound, aliasedCrate, .standard⟩ (zeroedCall 4, invalidRef) =
      .ok (.declined "result_shape") := rfl
  have offered := (Registry.reachable_standard.offers_eq halfSound.body).trans halfSound_pairs
  have sound : firstHalt? ⟨halfSound, aliasedCrate, .standard⟩ (offers .standard halfSound.body) = none := by
    simp [offered, firstHalt?, first, second, halt?]
  rw [(unit_of_no_halt sound .empty).2.2, offered]
  simp [finding?, first, second]

/-- Called through two aliases, the function is found as before. -/
theorem blankUnit_found :
    (∀ rule ∈ Registry.standard.rules, rule.Blind) ∧ aliasedCrate.Respelled blankCrate ∧
    (analyzeUnit .standard .standard blankCrate .empty blankUnit).diagnoses.map Diagnosis.unspelled =
      [zeroedFinding.unspelled] := by
  have blind : ∀ rule ∈ Registry.standard.rules, rule.Blind :=
    List.forall_mem_singleton.2 ⟨.inl rfl, by decide⟩
  have units := spelling_independent Registry.reachable_standard blind .standard blankCrate_respelled
  obtain ⟨-, -, same⟩ := (List.forall₂_cons.1 units).1 .empty .empty
  refine ⟨blind, blankCrate_respelled, ?_⟩
  rw [same, aliasedCrate_found, List.map_singleton]

end ChainLint
