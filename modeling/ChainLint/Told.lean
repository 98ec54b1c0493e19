import ChainLint.Warning
/-!
# Results told with warnings

Reading goes on after a warning. What is told keeps the warnings in order,
also when a fault ends the reading.
-/

namespace ChainLint

/-- A result, and the warnings given on the way to it. -/
structure Told (ε α : Type) where
  warnings : List Warning
  result : Except ε α

namespace Told

variable {ε α β : Type}

/-- Goes on with a result. -/
def andThen (x : Told ε α) (f : α → Told ε β) : Told ε β :=
  match x.result with
  | .ok a => ⟨x.warnings ++ (f a).warnings, (f a).result⟩
  | .error e => ⟨x.warnings, .error e⟩

instance : Monad (Told ε) where
  pure a := ⟨[], .ok a⟩
  bind := andThen

/-- Gives a warning. -/
def warn (w : Warning) : Told ε Unit := ⟨[w], .ok ()⟩

/-- Gives warnings. -/
def warnAll (ws : List Warning) : Told ε Unit := ⟨ws, .ok ()⟩

/-- Ends with a fault. -/
def stop (e : ε) : Told ε α := ⟨[], .error e⟩

/-- The result if there is one. -/
def value? (x : Told ε α) : Option α := x.result.toOption

/-! ## Going on with a result -/

theorem andThen_pure (x : Told ε α) : x.andThen pure = x := by
  obtain ⟨ws, r⟩ := x
  cases r with
  | ok a => exact congrArg (Told.mk · _) (List.append_nil ws)
  | error e => rfl

theorem andThen_assoc {γ : Type} (x : Told ε α) (f : α → Told ε β) (g : β → Told ε γ) :
    (x.andThen f).andThen g = x.andThen fun a => (f a).andThen g := by
  obtain ⟨ws, r⟩ := x
  cases r with
  | ok a => cases h : (f a).result <;> simp [andThen, h]
  | error e => rfl

instance : LawfulMonad (Told ε) :=
  LawfulMonad.mk' (Told ε) andThen_pure (fun _ _ => rfl) andThen_assoc

@[simp] theorem warnings_pure (a : α) : (pure a : Told ε α).warnings = [] := rfl
@[simp] theorem result_pure (a : α) : (pure a : Told ε α).result = .ok a := rfl

section
variable {x : Told ε α} {f : α → Told ε β}

theorem bind_of_ok {a : α} (h : x.result = .ok a) :
    (x >>= f) = ⟨x.warnings ++ (f a).warnings, (f a).result⟩ := by
  show x.andThen f = _
  rw [andThen, h]

theorem bind_of_error {e : ε} (h : x.result = .error e) : (x >>= f) = ⟨x.warnings, .error e⟩ := by
  show x.andThen f = _
  rw [andThen, h]

/-- A step that goes on gave a result to go on with. -/
theorem exists_of_result_bind {b : β} (h : (x >>= f).result = .ok b) :
    ∃ a, x.result = .ok a ∧ (f a).result = .ok b := by
  cases hx : x.result with
  | error e =>
    rw [bind_of_error hx] at h
    cases h
  | ok a =>
    rw [bind_of_ok hx] at h
    exact ⟨a, rfl, h⟩

end

@[simp] theorem stop_bind (e : ε) (f : α → Told ε β) : (stop e >>= f) = stop e := rfl

theorem bind_pure_eq (x : Told ε α) (f : α → β) :
    (x >>= fun a => pure (f a)) = ⟨x.warnings, x.result.map f⟩ := by
  cases h : x.result with
  | ok a => rw [bind_of_ok h, warnings_pure, result_pure, List.append_nil]; rfl
  | error e => rw [bind_of_error h]; rfl

theorem warnAll_bind (ws : List Warning) (f : Unit → Told ε α) :
    (warnAll ws >>= f) = ⟨ws ++ (f ()).warnings, (f ()).result⟩ := rfl

theorem warn_bind (w : Warning) (f : Unit → Told ε α) :
    (warn w >>= f) = ⟨w :: (f ()).warnings, (f ()).result⟩ := rfl

end Told

end ChainLint
