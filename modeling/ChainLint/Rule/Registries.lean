import ChainLint.History
import ChainLint.Rule.Registry
/-!
# Registries in use

Registering a rule changes a registry. Leaving rules out makes a new one, on
which the other rules are registered one after another.
-/

namespace ChainLint

/-- The registries in use, by their places. -/
abbrev Registries := List Registry

namespace Registries

/-- The registry at a place. -/
def registry (place : Nat) : Update Registries Registry := Update.found (·[place]?)

/-- Makes a registry without rules; its place is new. -/
def make : Update Registries Nat := do
  let s ← get
  set (s ++ [Registry.empty])
  return s.length

/-- Registers a rule. -/
def register (place : Nat) (rule : Rule) : Update Registries Unit := do
  match (← registry place).register rule with
  | .ok r => modify fun s => s.set place r
  | .error fault => throw (.refused fault)

/-- Registers rules in order, up to the first that is refused. -/
def registerAll (place : Nat) : List Rule → Update Registries Unit
  | [] => return ()
  | rule :: rest => do
    register place rule
    registerAll place rest

/-- Makes a registry of the rules whose names are not among the given ones. -/
def without (place : Nat) (names : List String) : Update Registries Nat := do
  let rules := (← registry place).rules.filter fun rule => !names.contains rule.name
  let rest ← make
  registerAll rest rules
  return rest

/-! ## Requests -/

/-- What may be asked of the registry at a place. -/
inductive Request
  | register (place : Nat) (rule : Rule)
  | without (place : Nat) (names : List String)

/-- The place of the registry that a request is about. -/
def Request.place : Request → Nat
  | .register place _ | .without place _ => place

/-- Whether a request may change the registry at a place. -/
def Request.changes (r : Request) (place : Nat) : Bool :=
  match r with
  | .register target _ => target = place
  | .without _ _ => false

/-- What is told if a request is not refused. -/
inductive Reply
  | registered
  | made (place : Nat)
deriving DecidableEq, Repr

/-- Serves a request. -/
def answer : Request → Update Registries Reply
  | .register place rule => do
    register place rule
    return .registered
  | .without place names => do return .made (← without place names)

end Registries

end ChainLint
