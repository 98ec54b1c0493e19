import ChainLint.History
import Mathlib.Data.List.Induction
/-!
# Whole histories

What one request keeps, a history keeps (`serveAll_keeps`). Where refused
requests change nothing, they may be left out of a history, and nothing else in
it changes (`serveAll_accepted`).
-/

namespace ChainLint.History

variable {σ ρ α : Type} {answer : ρ → Update σ α}

theorem serveAll_append (h : History σ ρ α) (rs rs' : List ρ) :
    h.serveAll answer (rs ++ rs') = (h.serveAll answer rs).serveAll answer rs' :=
  List.foldl_append

/-- What every request keeps holds in the end if it holds at the start. -/
theorem serveAll_keeps {P : History σ ρ α → Prop} (step : ∀ h r, P h → P (h.serve answer r))
    {h : History σ ρ α} (holds : P h) (rs : List ρ) : P (h.serveAll answer rs) := by
  induction rs generalizing h with
  | nil => exact holds
  | cons r rest ih => exact ih (step h r holds)

/-- If refused requests change nothing, the other requests alone get the same replies and come to the
same. -/
theorem serveAll_accepted (unchanged : ∀ s r, ((answer r).on s).1.isOk = false → ((answer r).on s).2 = s)
    (s : σ) (rs : List ρ) :
    let h := (start s).serveAll answer rs
    (start s).serveAll answer (accepted h.log) = ⟨h.state, h.log.filter fun e => e.2.isOk⟩ := by
  -- from the end: the last request is served where the ones before it end
  induction rs using List.reverseRecOn with
  | nil => rfl
  | append_singleton rs r ih =>
    intro h
    have last : h = ((start s).serveAll answer rs).serve answer r := serveAll_append (start s) rs [r]
    generalize (start s).serveAll answer rs = before at ih last
    rw [last, serve]
    by_cases ok : ((answer r).on before.state).1.isOk
    · have more : accepted ((r, ((answer r).on before.state).1) :: before.log) = accepted before.log ++ [r] := by
        simp [accepted, ok]
      dsimp only
      rw [more, serveAll_append, ih]
      simp [serveAll, serve, ok]
    · have none : accepted ((r, ((answer r).on before.state).1) :: before.log) = accepted before.log := by
        simp [accepted, ok]
      dsimp only
      rw [none, ih, unchanged _ _ (by simpa using ok)]
      simp [ok]

end ChainLint.History
