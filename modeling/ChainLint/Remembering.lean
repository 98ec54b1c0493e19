import ChainLint.Schedule
import ChainLint.Tree.Shape
/-!
# Shapes remembered while a unit is analysed

The shape of a node is looked up once for all rules that ask for it. The shapes
found so far are handed from guard to guard, from rule to rule and from node to
node. Every unit starts without any.
-/

namespace ChainLint

namespace Guard

/-- Checks a guard at a node. The shape of the node is one that was found before, or is looked up now
and remembered. -/
def checkRemembering (g : Guard) (e : Expr) (ctx : Context) (b : Bindings) (memo : ShapeMemo) :
    Except Halt Verdict × ShapeMemo :=
  match g with
  | .resultShape shape =>
    match memo.shapeOf ctx.crate.types e.id with
    | (.ok actual, memo) =>
      (.ok (if actual = shape then .passed { b with shape := some actual } else .failed), memo)
    | (.error fault, memo) => (.error (.malformed fault), memo)
  | g => (g.check e ctx b, memo)

end Guard

namespace Rule

/-- Checks guards in order, up to the first that does not hold, then concludes. -/
def runRemembering (r : Rule) (e : Expr) (ctx : Context) (b : Bindings) (memo : ShapeMemo) :
    List Guard → Except Halt Outcome × ShapeMemo
  | [] => (r.conclude e ctx b, memo)
  | g :: rest =>
    match g.checkRemembering e ctx b memo with
    | (.error halt, memo) => (.error halt, memo)
    | (.ok (.passed b'), memo) => r.runRemembering e ctx b' memo rest
    | (.ok .failed, memo) => (.ok (.declined g.name), memo)
    | (.ok (.broken text fault), memo) => (.ok (.broken text fault), memo)

/-- The answer of a rule at a node. -/
def evaluateRemembering (r : Rule) (e : Expr) (ctx : Context) (memo : ShapeMemo) :
    Except Halt Outcome × ShapeMemo :=
  r.runRemembering e ctx {} memo r.guards

end Rule

/-- Offers nodes to rules in order, up to a rule that gives no answer. -/
def visitRemembering (ctx : Context) (memory : Memory) (memo : ShapeMemo) :
    List (Expr × Rule) → Findings Halt
  | [] => ⟨[], [], memory, none⟩
  | (e, rule) :: rest =>
    match rule.evaluateRemembering e ctx memo with
    | (.error halt, _) => ⟨[], [], memory, some halt⟩
    | (.ok (.matched d), memo) =>
      let later := visitRemembering ctx memory memo rest
      { later with diagnoses := d :: later.diagnoses }
    | (.ok (.declined _), memo) => visitRemembering ctx memory memo rest
    | (.ok (.broken text fault), memo) =>
      let (warnings, memory) := memory.report rule.name text fault
      let later := visitRemembering ctx memory memo rest
      { later with warnings := warnings ++ later.warnings }

/-- Analyses one unit, with no shape remembered at first. -/
def analyzeUnitRemembering (registry : Registry) (paths : PathTable) (crate : Crate) (memory : Memory)
    (u : CodeUnit) : Findings Guard.Fault :=
  (visitRemembering ⟨u, crate, paths⟩ memory .empty (offers registry u.body)).ofOffers crate u

end ChainLint
