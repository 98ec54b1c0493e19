import ChainLint.Guard.Reading
import ChainLint.Table
/-!
# Expressions read before

The text of an expression is read once, and the term is kept for the next time.
A text that is no expression keeps nothing.
-/

namespace ChainLint.Guard

/-- The terms kept, by text. Each is what reading its text gives. -/
structure Compiled where
  terms : Table String Term
  read_eq : ∀ s t, terms.get? s = some t → read s = .ok t

namespace Compiled

/-- Nothing kept. -/
def empty : Compiled := ⟨.empty, nofun⟩

/-- Keeps a term that was read. -/
def keep (c : Compiled) (s : String) (t : Term) (h : read s = .ok t) : Compiled where
  terms := c.terms.insert s t
  read_eq s' t' h' := by
    rw [Table.get?_insert] at h'
    split at h'
    · next hs =>
      cases h'
      rw [← hs, h]
    · exact c.read_eq s' t' h'

/-- The term of a text: one that was kept, or else read now. -/
def term (c : Compiled) (s : String) : Except ReadFault Term × Compiled :=
  match c.terms.get? s with
  | some t => (.ok t, c)
  | none =>
    match h : read s with
    | .ok t => (.ok t, c.keep s t h)
    | .error fault => (.error fault, c)

/-- The term of a guard, without the blanks around it; a blank guard has none. -/
def ofText (c : Compiled) (s : String) : Except ReadFault (Option Term) × Compiled :=
  let s := Text.trim s
  if s = "" then (.ok none, c)
  else
    let (t, c) := c.term s
    (some <$> t, c)

/-- A term that was kept is the one that reading gives. -/
theorem term_fst (c : Compiled) (s : String) : (c.term s).1 = read s := by
  unfold term
  split
  · next t h => exact (c.read_eq s t h).symm
  · split
    · next h => exact h.symm
    · next h => exact h.symm

theorem ofText_fst (c : Compiled) (s : String) : (c.ofText s).1 = Guard.ofText s := by
  unfold ofText Guard.ofText
  dsimp only
  split
  · rfl
  · rw [← c.term_fst]

end Compiled

end ChainLint.Guard
