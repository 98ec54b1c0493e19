import ChainLint.Guard.Compiled
import ChainLint.Pool
/-!
# Units in any order

Units that are analysed one after another share the memory of reports and the
expressions read so far. The order need not be that of the crate: what each
unit gave is put together by its place.
-/

namespace ChainLint

/-! ## Guards that share the expressions read -/

namespace Guard

/-- The answer of an expression that has no value. -/
def breakOff (text : String) (fault : Fault) : Except Halt Verdict :=
  if fault.isCaught then .ok (.broken text fault) else .error (.uncaught fault)

/-- Checks a guard at a node. The term of an expression is taken from those read before, or read now
and kept for later. -/
def checkShared (g : Guard) (e : Expr) (ctx : Context) (b : Bindings) (c : Compiled) :
    Except Halt Verdict × Compiled :=
  match g with
  | .expr text _ =>
    match c.ofText text with
    | (.ok term, c) => (checkTerm text term e ctx.unit b, c)
    | (.error fault, c) => (breakOff text (.unread (Text.trim text) fault), c)
  | g => (g.check e ctx b, c)

end Guard

namespace Rule

/-- Checks guards in order, up to the first that does not hold, then concludes. -/
def runShared (r : Rule) (e : Expr) (ctx : Context) (b : Bindings) (c : Guard.Compiled) :
    List Guard → Except Halt Outcome × Guard.Compiled
  | [] => (r.conclude e ctx b, c)
  | g :: rest =>
    match g.checkShared e ctx b c with
    | (.error halt, c) => (.error halt, c)
    | (.ok (.passed b'), c) => r.runShared e ctx b' c rest
    | (.ok .failed, c) => (.ok (.declined g.name), c)
    | (.ok (.broken text fault), c) => (.ok (.broken text fault), c)

/-- The answer of a rule at a node. -/
def evaluateShared (r : Rule) (e : Expr) (ctx : Context) (c : Guard.Compiled) :
    Except Halt Outcome × Guard.Compiled :=
  r.runShared e ctx {} c r.guards

end Rule

/-! ## Units that share -/

/-- What units share: the reports made, and the expressions read. -/
structure Shared where
  memory : Memory
  compiled : Guard.Compiled

/-- Offers nodes to rules in order, up to a rule that gives no answer. -/
def visitShared (ctx : Context) (memory : Memory) (c : Guard.Compiled) :
    List (Expr × Rule) → Findings Halt × Guard.Compiled
  | [] => (⟨[], [], memory, none⟩, c)
  | (e, rule) :: rest =>
    match rule.evaluateShared e ctx c with
    | (.error halt, c) => (⟨[], [], memory, some halt⟩, c)
    | (.ok (.matched d), c) =>
      let (later, c) := visitShared ctx memory c rest
      ({ later with diagnoses := d :: later.diagnoses }, c)
    | (.ok (.declined _), c) => visitShared ctx memory c rest
    | (.ok (.broken text fault), c) =>
      let (warnings, memory) := memory.report rule.name text fault
      let (later, c) := visitShared ctx memory c rest
      ({ later with warnings := warnings ++ later.warnings }, c)

/-- What a unit gives for what its offers gave. -/
def Findings.ofOffers (found : Findings Halt) (crate : Crate) (u : CodeUnit) : Findings Guard.Fault :=
  match found.stopped with
  | none => ⟨found.diagnoses, found.warnings, found.memory, none⟩
  | some (.malformed fault) =>
    ⟨[.ofMalformed u fault], found.warnings ++ [.aborted u.name crate.name fault], found.memory,
      none⟩
  | some (.uncaught fault) => ⟨found.diagnoses, found.warnings, found.memory, some fault⟩

/-- Analyses one unit. -/
def analyzeUnitShared (registry : Registry) (paths : PathTable) (crate : Crate) (s : Shared)
    (u : CodeUnit) : Findings Guard.Fault × Guard.Compiled :=
  let (found, c) := visitShared ⟨u, crate, paths⟩ s.memory s.compiled (offers registry u.body)
  (found.ofOffers crate u, c)

/-! ## Orders -/

/-- What units gave, each by its place, what was told, and what was shared in the end. -/
structure Scheduled where
  found : List (Nat × List Diagnosis)
  warnings : List Warning
  shared : Shared
  stopped : Option Guard.Fault

/-- Analyses units one after another, each with its place, up to one whose analysis stops. -/
def analyzeInOrder (registry : Registry) (paths : PathTable) (crate : Crate) (s : Shared) :
    List (CodeUnit × Nat) → Scheduled
  | [] => ⟨[], [], s, none⟩
  | (u, place) :: rest =>
    let (first, compiled) := analyzeUnitShared registry paths crate s u
    match first.stopped with
    | some fault => ⟨[], first.warnings, ⟨first.memory, compiled⟩, some fault⟩
    | none =>
      let later := analyzeInOrder registry paths crate ⟨first.memory, compiled⟩ rest
      { later with
        found := (place, first.diagnoses) :: later.found
        warnings := first.warnings ++ later.warnings }

/-- The diagnoses of all units, by their places. -/
def Scheduled.merged (r : Scheduled) : List Diagnosis :=
  (r.found.mergeSort fun a b => a.1 ≤ b.1).flatMap (·.2)

/-- Whether a warning says that a unit was given up. -/
def Warning.isAborted : Warning → Bool
  | .aborted .. => true
  | _ => false

end ChainLint
