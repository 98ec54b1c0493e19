import ChainLint.Rule.Basic
/-!
# The registry of rules

Rules have distinct names. For every kind of nodes the registry keeps the rules
that ask for it, in the order of registration, which is the order in which they
run.
-/

namespace ChainLint

/-- The rules in use, and for each kind the rules that ask for it. -/
structure Registry where
  rules : List Rule
  byKind : Table String (List Rule)

namespace Registry

/-- The registry without rules. -/
def empty : Registry := ⟨[], Table.empty⟩

/-- The rule of a name. -/
def get? (r : Registry) (name : String) : Option Rule := r.rules.find? fun rule => rule.name = name

/-- The rules that ask for a kind of nodes. -/
def rulesFor (r : Registry) (kind : String) : List Rule := (r.byKind.get? kind).getD []

/-- Puts a rule last among those that ask for a kind. -/
def dispatch (rule : Rule) (t : Table String (List Rule)) (kind : String) :
    Table String (List Rule) :=
  t.insert kind ((t.get? kind).getD [] ++ [rule])

/-- Registers a rule. -/
def register (r : Registry) (rule : Rule) : Except RegistryFault Registry :=
  if (r.get? rule.name).isSome then .error (.knownRule rule.name)
  else .ok ⟨r.rules ++ [rule], rule.nodeKinds.foldl (dispatch rule) r.byKind⟩

/-- Registers rules in order, up to the first that is refused. -/
def registerAll (r : Registry) : List Rule → Except RegistryFault Registry
  | [] => .ok r
  | rule :: rest => do (← r.register rule).registerAll rest

/-- The registry of rules. -/
def ofRules (rules : List Rule) : Except RegistryFault Registry := empty.registerAll rules

/-- A new registry of the rules whose names are not among the given ones. -/
def without (r : Registry) (names : List String) : Except RegistryFault Registry :=
  ofRules (r.rules.filter fun rule => !names.contains rule.name)

/-- The registry of the rule that is always there. -/
def standard : Registry := ⟨[invalidRef], ⟨[("Call", [invalidRef])]⟩⟩

end Registry

end ChainLint
