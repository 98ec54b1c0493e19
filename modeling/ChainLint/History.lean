import ChainLint.PathTable
/-!
# Histories of requests

Tables and registries in use are known by their places. An update changes what
is in use and gives a result, or it fails; what it changed before it failed
stays changed. A history keeps every request with its reply.
-/

namespace ChainLint

/-- Why an update gives no result. -/
inductive UpdateFault
  /-- Nothing is at the place. -/
  | absent
  | refused (fault : RegistryFault)
deriving DecidableEq, Repr

/-- A change of what is in use, with a result or a fault. -/
abbrev Update (σ α : Type) := ExceptT UpdateFault (StateM σ) α

namespace Update

variable {σ α β : Type}

/-- What an update gives, and what is in use after it. -/
def on (x : Update σ α) (s : σ) : Except UpdateFault α × σ := (ExceptT.run x).run s

/-- What is at a place, if anything is. -/
def found (thing : σ → Option α) : Update σ α := do
  match thing (← get) with
  | some a => return a
  | none => throw .absent

/-! ## Updates one after the other -/

@[simp] theorem on_pure (a : α) (s : σ) : on (pure a) s = (.ok a, s) := rfl

@[simp] theorem on_throw (fault : UpdateFault) (s : σ) :
    on (throw fault : Update σ α) s = (.error fault, s) := rfl

@[simp] theorem on_get (s : σ) : on (get : Update σ σ) s = (.ok s, s) := rfl

theorem on_bind (x : Update σ α) (f : α → Update σ β) (s : σ) :
    on (x >>= f) s = match on x s with
      | (.ok a, s') => on (f a) s'
      | (.error fault, s') => (.error fault, s') := by
  show ((ExceptT.run x >>= ExceptT.bindCont f : StateM σ _)).run s = _
  rw [StateT.run_bind]
  show (ExceptT.bindCont f (on x s).1).run (on x s).2 = _
  obtain ⟨result, s'⟩ := on x s
  cases result <;> rfl

theorem found_on {thing : σ → Option α} {s : σ} {a : α} (h : thing s = some a) :
    on (found thing) s = (.ok a, s) := by
  rw [found, on_bind, on_get]
  simp only [h, on_pure]

theorem found_on_none {thing : σ → Option α} {s : σ} (h : thing s = none) :
    on (found thing) s = (.error .absent, s) := by
  rw [found, on_bind, on_get]
  simp only [h, on_throw]

end Update

/-- What requests have come to: what is in use, and every request with its reply, the latest
first. -/
structure History (σ ρ α : Type) where
  state : σ
  log : List (ρ × Except UpdateFault α)

namespace History

variable {σ ρ α : Type} (answer : ρ → Update σ α)

/-- Before the first request. -/
def start (s : σ) : History σ ρ α := ⟨s, []⟩

/-- One more request. -/
def serve (h : History σ ρ α) (r : ρ) : History σ ρ α :=
  ⟨((answer r).on h.state).2, (r, ((answer r).on h.state).1) :: h.log⟩

/-- Some more requests in order. -/
def serveAll (h : History σ ρ α) (rs : List ρ) : History σ ρ α := rs.foldl (serve answer) h

/-- The requests of a log that were not refused, in order. -/
def accepted (log : List (ρ × Except UpdateFault α)) : List ρ :=
  ((log.filter fun e => e.2.isOk).map (·.1)).reverse

end History

end ChainLint
