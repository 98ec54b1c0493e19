import ChainLint.Proofs.Schedule
import ChainLint.Remembering
/-!
# What is remembered does not show

`analyzeUnitRemembering_eq`: a unit gives the same whether shapes are remembered
or looked up each time. The invariant is that every remembered shape is the one
that the table gives (`ShapeMemo.Recalls`). A look-up keeps it, so every guard
answers as it does alone and hands on shapes that are right.
-/

namespace ChainLint

/-- Every remembered shape is the one that the table gives. -/
def ShapeMemo.Recalls (memo : ShapeMemo) (t : TypeTable) : Prop :=
  ∀ node shape, memo.known.get? node = some shape → t.shapeOf node = .ok shape

namespace ShapeMemo

variable {memo : ShapeMemo} {t : TypeTable}

theorem recalls_empty (t : TypeTable) : ShapeMemo.empty.Recalls t := by
  intro node shape h
  cases h

/-- A shape that was found is the one that is looked up. -/
theorem shapeOf_fst (h : memo.Recalls t) (node : Int) : (memo.shapeOf t node).1 = t.shapeOf node := by
  unfold shapeOf
  cases known : memo.known.get? node with
  | some shape => exact (h node shape known).symm
  | none => cases found : t.shapeOf node <;> rfl

theorem recalls_shapeOf (h : memo.Recalls t) (node : Int) : (memo.shapeOf t node).2.Recalls t := by
  unfold shapeOf
  cases known : memo.known.get? node with
  | some shape => exact h
  | none =>
    cases found : t.shapeOf node with
    | error fault => exact h
    | ok shape =>
      intro node' shape' known'
      rw [Table.get?_insert] at known'
      split at known'
      · next same =>
        cases known'
        rw [← same, found]
      · exact h node' shape' known'

end ShapeMemo

/-! ## Guards and rules -/

section
variable {e : Expr} {ctx : Context} {memory : Memory} {memo : ShapeMemo}

theorem checkRemembering_spec (h : memo.Recalls ctx.crate.types) (g : Guard) (b : Bindings) :
    (g.checkRemembering e ctx b memo).1 = g.check e ctx b ∧
      (g.checkRemembering e ctx b memo).2.Recalls ctx.crate.types := by
  cases g with
  | resultShape shape =>
    have same := ShapeMemo.shapeOf_fst h e.id
    have kept := ShapeMemo.recalls_shapeOf h e.id
    simp only [Guard.checkRemembering, Guard.check, ← same]
    generalize memo.shapeOf ctx.crate.types e.id = found at kept ⊢
    obtain ⟨fault | actual, memo'⟩ := found
    · exact ⟨rfl, kept⟩
    · exact ⟨rfl, kept⟩
  | _ => exact ⟨rfl, h⟩

theorem runRemembering_spec (h : memo.Recalls ctx.crate.types) (r : Rule) (gs : List Guard) (b : Bindings) :
    (r.runRemembering e ctx b memo gs).1 = r.run e ctx b gs ∧
      (r.runRemembering e ctx b memo gs).2.Recalls ctx.crate.types := by
  -- each guard may add to what is remembered, so the induction is for all of it that is right
  induction gs generalizing b memo with
  | nil => exact ⟨rfl, h⟩
  | cons g rest ih =>
    obtain ⟨same, kept⟩ := checkRemembering_spec (e := e) h g b
    rw [Rule.runRemembering, Rule.run, ← same]
    generalize g.checkRemembering e ctx b memo = checked at kept ⊢
    obtain ⟨halt | verdict, memo'⟩ := checked
    · exact ⟨rfl, kept⟩
    · cases verdict with
      | passed b' => exact ih kept b'
      | failed => exact ⟨rfl, kept⟩
      | broken text fault => exact ⟨rfl, kept⟩

theorem evaluateRemembering_spec (h : memo.Recalls ctx.crate.types) (r : Rule) :
    (r.evaluateRemembering e ctx memo).1 = r.evaluate e ctx ∧
      (r.evaluateRemembering e ctx memo).2.Recalls ctx.crate.types :=
  runRemembering_spec h r r.guards {}

theorem visitRemembering_eq (h : memo.Recalls ctx.crate.types) (ps : List (Expr × Rule)) :
    visitRemembering ctx memory memo ps = visit ctx memory ps := by
  induction ps generalizing memory memo with
  | nil => rfl
  | cons p rest ih =>
    obtain ⟨e, rule⟩ := p
    obtain ⟨same, kept⟩ := evaluateRemembering_spec (e := e) h rule
    simp only [visitRemembering, visit]
    rw [← same]
    generalize rule.evaluateRemembering e ctx memo = evaluated at kept ⊢
    obtain ⟨halt | outcome, memo'⟩ := evaluated
    · rfl
    · cases outcome with
      | matched d => simp only [ih kept]
      | declined step => exact ih kept
      | broken text fault => simp only [ih kept]

end

/-- A unit gives and tells the same whether shapes are remembered or not. -/
theorem analyzeUnitRemembering_eq (registry : Registry) (paths : PathTable) (crate : Crate) (memory : Memory)
    (u : CodeUnit) :
    analyzeUnitRemembering registry paths crate memory u = analyzeUnit registry paths crate memory u := by
  rw [analyzeUnit_eq, analyzeUnitRemembering, visitRemembering_eq (ShapeMemo.recalls_empty _)]

end ChainLint
