import ChainLint.Analysis
/-!
# Several units at a time

With more than one worker, units are analysed side by side. A unit is started
as soon as a worker is free, in the order of the crate, and all units under way
share the memory of reports. What was found is put together in the order of the
units, whichever of them came to its end first.
-/

namespace ChainLint

/-- The diagnoses of an analysis, or the fault that stopped it. -/
def Findings.result {ε : Type} (f : Findings ε) : Except ε (List Diagnosis) :=
  match f.stopped with
  | none => .ok f.diagnoses
  | some fault => .error fault

/-- The diagnoses of parts put together, or the first fault. -/
def gather : List (Except Guard.Fault (List Diagnosis)) → Except Guard.Fault (List Diagnosis)
  | [] => .ok []
  | .error fault :: _ => .error fault
  | .ok ds :: rest => (ds ++ ·) <$> gather rest

/-- The analysis of one unit under way: what is still to be offered and what was found. -/
structure Task where
  unit : CodeUnit
  pending : List (Expr × Rule)
  found : List Diagnosis
  halt : Option Halt

namespace Task

/-- The analysis of a unit before its first offer. -/
def start (registry : Registry) (u : CodeUnit) : Task := ⟨u, offers registry u.body, [], none⟩

/-- Whether there is nothing left to do. -/
def isDone (t : Task) : Bool := t.pending.isEmpty || t.halt.isSome

/-- The analysis after an offer that gave some findings. -/
def after (t : Task) (pending : List (Expr × Rule)) (now : Findings Halt) : Task :=
  { t with pending, found := t.found ++ now.diagnoses, halt := now.stopped }

/-- What the analysis gives once it is done. -/
def result (t : Task) : Except Guard.Fault (List Diagnosis) :=
  match t.halt with
  | none => .ok t.found
  | some (.malformed fault) => .ok [.ofMalformed t.unit fault]
  | some (.uncaught fault) => .error fault

/-- The warning that a unit was given up, if it was. -/
def warnings (t : Task) (crate : Crate) : List Warning :=
  match t.halt with
  | some (.malformed fault) => [.aborted t.unit.name crate.name fault]
  | _ => []

end Task

/-- The analysis of a crate under way: the units still to start, and those started, in order. -/
structure Pool where
  waiting : List CodeUnit
  tasks : List Task
  memory : Memory
  warnings : List Warning

namespace Pool

/-- The analysis of units before any is started. -/
def ofUnits (units : List CodeUnit) (memory : Memory) : Pool := ⟨units, [], memory, []⟩

/-- How many workers have something to do. -/
def busy (p : Pool) : Nat := p.tasks.countP fun t => !t.isDone

/-- Whether every unit was analysed. -/
def isDone (p : Pool) : Bool := p.waiting.isEmpty && p.tasks.all Task.isDone

/-- What is found in the units, in their order, or the first fault. -/
def result (p : Pool) : Except Guard.Fault (List Diagnosis) := gather (p.tasks.map Task.result)

/-- What may happen next with so many workers. -/
inductive Step (registry : Registry) (paths : PathTable) (crate : Crate) (jobs : Int) :
    Pool → Pool → Prop
  /-- A free worker starts the next unit. -/
  | start {p : Pool} {u : CodeUnit} {waiting : List CodeUnit} (next : p.waiting = u :: waiting)
      (free : p.busy < jobs) :
      Step registry paths crate jobs p
        { p with waiting, tasks := p.tasks ++ [Task.start registry u] }
  /-- A unit under way makes its next offer. -/
  | offer {p : Pool} {before after : List Task} {t t' : Task} {next : Expr × Rule}
      {pending : List (Expr × Rule)} {now : Findings Halt} (under : p.tasks = before ++ t :: after)
      (ready : t.halt = none) (due : t.pending = next :: pending)
      (made : now = visit ⟨t.unit, crate, paths⟩ p.memory [next]) (moved : t' = t.after pending now) :
      Step registry paths crate jobs p
        { p with
          tasks := before ++ t' :: after
          memory := now.memory
          warnings := p.warnings ++ now.warnings ++ t'.warnings crate }

/-- Any number of steps. -/
inductive Steps (registry : Registry) (paths : PathTable) (crate : Crate) (jobs : Int) :
    Pool → Pool → Prop
  | refl (p : Pool) : Steps registry paths crate jobs p p
  | head {p q r : Pool} :
      Step registry paths crate jobs p q → Steps registry paths crate jobs q r →
      Steps registry paths crate jobs p r

end Pool

/-- What analysing a crate may give with so many workers. With one worker or one unit, the units
are analysed one after another. -/
inductive CrateAnalysis (registry : Registry) (paths : PathTable) (crate : Crate) (memory : Memory)
    (jobs : Int) : Except Guard.Fault (List Diagnosis) → Prop
  | inTurn (alone : jobs ≤ 1 ∨ crate.units.length ≤ 1) :
      CrateAnalysis registry paths crate memory jobs
        (analyzeCrate registry paths memory crate).result
  | sideBySide {p : Pool} (many : 1 < jobs ∧ 1 < crate.units.length)
      (steps : Pool.Steps registry paths crate jobs (.ofUnits crate.units memory) p)
      (done : p.isDone = true) : CrateAnalysis registry paths crate memory jobs p.result

end ChainLint
