import ChainLint.Proofs.Containment
import ChainLint.Proofs.Remembering
/-!
# Disabling rules is filtering

`disabling_filters`: leaving rules out of a registry takes their findings out of
what a unit gives and changes nothing else. What the registry offers to a node
is what it offered before, without these rules (`Registry.Reachable.offers_filter`),
and every finding carries the name of the rule that made it
(`rule_of_finding`). An offer answers alike whatever was offered before it, also
where shapes are remembered from rule to rule.
-/

namespace ChainLint

theorem rule_of_finding {ctx : Context} {p : Expr × Rule} {d : Diagnosis}
    (h : finding? (answer ctx p) = some d) : d.rule = p.2.name := by
  obtain ⟨found, summary, rfl⟩ := diagnose_of_finding h
  rfl

/-! ## Registries with fewer rules -/

section
variable {registry rest : Registry} {keep : Rule → Bool}

theorem Registry.Reachable.rulesFor_filter (h : registry.Reachable) (hr : rest.Reachable)
    (rules : rest.rules = registry.rules.filter keep) (kind : String) :
    rest.rulesFor kind = (registry.rulesFor kind).filter keep := by
  rw [hr.rulesFor_eq, h.rulesFor_eq, rules, List.filter_filter, List.filter_filter]
  simp only [Bool.and_comm]

/-- With fewer rules, a tree is offered to those that are left, in the same order. -/
theorem Registry.Reachable.offers_filter (h : registry.Reachable) (hr : rest.Reachable)
    (rules : rest.rules = registry.rules.filter keep) (body : Expr) :
    offers rest body = (offers registry body).filter fun p => keep p.2 := by
  unfold offers
  rw [List.filter_flatMap]
  refine List.flatMap_congr fun e _ => ?_
  rw [h.rulesFor_filter hr rules, List.filter_map]
  rfl

end

/-- What some of the offers find is what all of them found, if findings tell their offers apart. -/
theorem filterMap_filter_of_tells {α β : Type} {f : α → Option β} {keep : α → Bool} {kept : β → Bool}
    {l : List α} (tells : ∀ a ∈ l, ∀ b, f a = some b → kept b = keep a) :
    (l.filter keep).filterMap f = (l.filterMap f).filter kept := by
  rw [List.filterMap_filter, List.filter_filterMap]
  refine List.filterMap_congr fun a ha => ?_
  cases found : f a with
  | none => simp
  | some b => simp [Option.filter, tells a ha b found]

/-- Leaving rules out never fails. The registry then offers a node of any kind to the rules that it
offered it to, without these. A unit that came to its end and was not given up does so again, and
gives what it gave without the findings of these rules, in the same order. That shapes are remembered
from rule to rule does not show. -/
theorem disabling_filters {registry : Registry} (hr : registry.Reachable) (names : List String) :
    ∃ rest, registry.without names = .ok rest ∧
      (∀ kind, rest.rulesFor kind = (registry.rulesFor kind).filter fun rule => !names.contains rule.name) ∧
      ∀ (paths : PathTable) (crate : Crate) (u : CodeUnit) (memory memory' : Memory),
        let all := analyzeUnitRemembering registry paths crate memory u
        let kept := analyzeUnitRemembering rest paths crate memory' u
        all = analyzeUnit registry paths crate memory u ∧ kept = analyzeUnit rest paths crate memory' u ∧
          (all.stopped = none → all.gaveUp = false →
            kept.stopped = none ∧ kept.gaveUp = false ∧
              kept.diagnoses = all.diagnoses.filter fun d => !names.contains d.rule) := by
  obtain ⟨rest, without, reachable, rules⟩ := hr.exists_without names
  refine ⟨rest, without, hr.rulesFor_filter reachable rules, fun paths crate u memory memory' => ?_⟩
  intro all kept
  have hall : all = analyzeUnit registry paths crate memory u := analyzeUnitRemembering_eq ..
  have hkept : kept = analyzeUnit rest paths crate memory' u := analyzeUnitRemembering_eq ..
  refine ⟨hall, hkept, fun stopped gaveUp => ?_⟩
  rw [hall] at stopped gaveUp
  have sound := (firstHalt?_eq_none_iff memory).2 ⟨stopped, gaveUp⟩
  obtain ⟨-, -, found⟩ := unit_of_no_halt sound memory
  have offered := hr.offers_filter reachable rules u.body
  -- none of the offers halts, so none of those that are left does
  have sound' : firstHalt? ⟨u, crate, paths⟩ (offers rest u.body) = none := by
    rw [offered]
    exact List.findSome?_eq_none_iff.2 fun p hp =>
      List.findSome?_eq_none_iff.1 sound p (List.mem_of_mem_filter hp)
  obtain ⟨stopped', gaveUp', found'⟩ := unit_of_no_halt sound' memory'
  rw [hall, hkept]
  refine ⟨stopped', gaveUp', ?_⟩
  rw [found', found, offered]
  exact filterMap_filter_of_tells fun p _ d hd => by rw [rule_of_finding hd]

/-! ## Two rules that find something at one call -/

/-- Finds every use of a function that fills memory with zeros, as a callee or as the receiver of a method. -/
def zeroFillRule : Rule where
  name := "zero_fill_call"
  category := "style"
  nodeKinds := ["Call", "MethodCall"]
  guards := [.resolves]
  classifier := .byTag ⟨[(PathTable.zeroFillTag, "memory filled with zeros")]⟩
  severity := "warning"

/-- The registry of the rule that is always there and this one. -/
def siblings : Registry :=
  ⟨[invalidRef, zeroFillRule], ⟨[("Call", [invalidRef, zeroFillRule]), ("MethodCall", [zeroFillRule])]⟩⟩

theorem reachable_siblings : siblings.Reachable := by
  have h : Registry.ofRules [invalidRef, zeroFillRule] = .ok siblings := rfl
  exact Registry.reachable_ofRules h

theorem siblings_pairs : siblings.pairs halfSound.body =
    [(zeroedCall 2, invalidRef), (zeroedCall 2, zeroFillRule),
      (zeroedCall 4, invalidRef), (zeroedCall 4, zeroFillRule)] := by
  simp [Registry.pairs, Expr.preorder_eq, Expr.parts, halfSound, zeroedCall, siblings, invalidRef, zeroFillRule]

theorem zeroedCall_resolve {id : Int} (h : id = 2 ∨ id = 4) :
    wholeCrate.resolve (zeroedCall id).callee = .ok (some ⟨["core", "mem", "zeroed"]⟩) := by
  rcases h with rfl | rfl <;>
    simp [Crate.resolve, zeroedCall, Crate.declarationOf, chase, wholeCrate, halfSoundCrate, Table.get?,
      Table.find?, Declaration.isAlias, aliasKinds, traitMethodKind, pure, Except.pure, bind, Except.bind]

theorem zeroFillRule_answer {id : Int} (h : id = 2 ∨ id = 4) :
    ∃ d, answer ⟨halfSound, wholeCrate, .standard⟩ (zeroedCall id, zeroFillRule) = .ok (.matched d) := by
  have hr : answer ⟨halfSound, wholeCrate, .standard⟩ (zeroedCall id, zeroFillRule) =
      zeroFillRule.run (zeroedCall id) ⟨halfSound, wholeCrate, .standard⟩ {} [.resolves] := rfl
  have ho : ({} : Bindings).callee.or (zeroedCall id).callee = (zeroedCall id).callee := rfl
  rw [hr]
  simp only [Rule.run, Guard.check, ho, zeroedCall_resolve h]
  exact ⟨_, rfl⟩

/-- Without the first rule, the findings of the other one are left. -/
theorem siblings_filtered :
    siblings.Reachable ∧
    ∃ rest, siblings.without ["invalid_ref"] = .ok rest ∧
      let all := analyzeUnitRemembering siblings .standard wholeCrate .empty halfSound
      let kept := analyzeUnitRemembering rest .standard wholeCrate .empty halfSound
      all.stopped = none ∧ all.gaveUp = false ∧
        all.diagnoses.map (·.rule) = ["invalid_ref", "zero_fill_call", "zero_fill_call"] ∧
        kept.diagnoses = all.diagnoses.filter (fun d => !(["invalid_ref"].contains d.rule)) := by
  obtain ⟨first, h₁⟩ := wholeCrate_first
  obtain ⟨second, h₂⟩ := zeroFillRule_answer (.inl rfl)
  obtain ⟨third, h₄⟩ := zeroFillRule_answer (.inr rfl)
  have h₃ : answer ⟨halfSound, wholeCrate, .standard⟩ (zeroedCall 4, invalidRef) =
      .ok (.declined "result_shape") := rfl
  have offered := (reachable_siblings.offers_eq halfSound.body).trans siblings_pairs
  have sound : firstHalt? ⟨halfSound, wholeCrate, .standard⟩ (offers siblings halfSound.body) = none := by
    simp [offered, firstHalt?, h₁, h₂, h₃, h₄, halt?]
  obtain ⟨stopped, gaveUp, found⟩ := unit_of_no_halt sound .empty
  have name : ∀ {p d}, answer ⟨halfSound, wholeCrate, .standard⟩ p = .ok (.matched d) → d.rule = p.2.name :=
    fun h => rule_of_finding (by rw [h]; rfl)
  have n₁ : first.rule = "invalid_ref" := name h₁
  have n₂ : second.rule = "zero_fill_call" := name h₂
  have n₄ : third.rule = "zero_fill_call" := name h₄
  obtain ⟨rest, without, -, unit⟩ := disabling_filters reachable_siblings ["invalid_ref"]
  obtain ⟨same, -, filtered⟩ := unit .standard wholeCrate halfSound .empty .empty
  rw [← same] at stopped gaveUp found
  refine ⟨reachable_siblings, rest, without, stopped, gaveUp, ?_, (filtered stopped gaveUp).2.2⟩
  rw [found, offered]
  simp [finding?, h₁, h₂, h₃, h₄, n₁, n₂, n₄]

end ChainLint
