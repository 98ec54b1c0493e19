import ChainLint.Rule.Registry
import ChainLint.Warning
/-!
# Analysis

Every node of a unit is offered, in the order of the walk, to each rule that
asks for its kind. A unit that contradicts itself gives one internal diagnosis
instead of what was found in it before. A broken expression is reported once
for its rule and text; the memory of these reports is handed from unit to unit.
-/

namespace ChainLint

/-- The broken expressions reported so far: name of the rule, text of the expression. -/
structure Memory where
  reported : List (String × String)

namespace Memory

/-- Nothing reported. -/
def empty : Memory := ⟨[]⟩

/-- Reports a broken expression unless that was done before. -/
def report (m : Memory) (rule text : String) (fault : Guard.Fault) : List Warning × Memory :=
  if m.reported.contains (rule, text) then ([], m)
  else ([.brokenGuard rule text fault], ⟨(rule, text) :: m.reported⟩)

end Memory

/-- What an analysis has given so far, or up to where it stopped. -/
structure Findings (ε : Type) where
  diagnoses : List Diagnosis
  warnings : List Warning
  memory : Memory
  stopped : Option ε

/-- The nodes of a unit, each with the rules that ask for its kind. -/
def offers (registry : Registry) (body : Expr) : List (Expr × Rule) :=
  body.walk.flatMap fun e => (registry.rulesFor e.kind).map fun rule => (e, rule)

/-- Offers nodes to rules in order, up to a rule that gives no answer. -/
def visit (ctx : Context) (memory : Memory) : List (Expr × Rule) → Findings Halt
  | [] => ⟨[], [], memory, none⟩
  | (e, rule) :: rest =>
    match rule.evaluate e ctx with
    | .error halt => ⟨[], [], memory, some halt⟩
    | .ok (.matched d) =>
      let later := visit ctx memory rest
      { later with diagnoses := d :: later.diagnoses }
    | .ok (.declined _) => visit ctx memory rest
    | .ok (.broken text fault) =>
      let (warnings, memory) := memory.report rule.name text fault
      let later := visit ctx memory rest
      { later with warnings := warnings ++ later.warnings }

/-- Analyses one unit. -/
def analyzeUnit (registry : Registry) (paths : PathTable) (crate : Crate) (memory : Memory)
    (u : CodeUnit) : Findings Guard.Fault :=
  let found := visit ⟨u, crate, paths⟩ memory (offers registry u.body)
  match found.stopped with
  | none => ⟨found.diagnoses, found.warnings, found.memory, none⟩
  | some (.malformed fault) =>
    ⟨[.ofMalformed u fault], found.warnings ++ [.aborted u.name crate.name fault], found.memory,
      none⟩
  | some (.uncaught fault) => ⟨found.diagnoses, found.warnings, found.memory, some fault⟩

/-- Analyses units in order, up to one whose analysis stops. -/
def analyzeUnits (registry : Registry) (paths : PathTable) (crate : Crate) (memory : Memory) :
    List CodeUnit → Findings Guard.Fault
  | [] => ⟨[], [], memory, none⟩
  | u :: rest =>
    let first := analyzeUnit registry paths crate memory u
    match first.stopped with
    | some fault => ⟨first.diagnoses, first.warnings, first.memory, some fault⟩
    | none =>
      let later := analyzeUnits registry paths crate first.memory rest
      ⟨first.diagnoses ++ later.diagnoses, first.warnings ++ later.warnings, later.memory,
        later.stopped⟩

/-- Analyses all units of a crate. -/
def analyzeCrate (registry : Registry) (paths : PathTable) (memory : Memory) (crate : Crate) :
    Findings Guard.Fault :=
  analyzeUnits registry paths crate memory crate.units

end ChainLint
