import ChainLint.Diagnosis
import ChainLint.Guard.Eval
import ChainLint.PathTable
import ChainLint.Text.Blank
/-!
# Rules

A rule asks for nodes of certain kinds, checks a chain of guards in order, and
classifies what passes them all. Guards hand on what they find as bindings;
every evaluation starts without any.
-/

namespace ChainLint

/-! ## What guards see and find -/

/-- What guards may consult. -/
structure Context where
  unit : CodeUnit
  crate : Crate
  paths : PathTable

/-- What the guards passed so far have found. -/
structure Bindings where
  callee : Option Expr := none
  shape : Option Shape := none
  symbol : Option (SymbolPath × Option String) := none

namespace Bindings

/-- The tag of the identity found. -/
def tag? (b : Bindings) : Option String := b.symbol.bind (·.2)

/-- A text entry of a dictionary of bindings. -/
def entry (name : String) (v : Guard.Value) : Guard.Value × Guard.Value :=
  (.text name (.slot [name, "key"]), v)

/-- The tag as a value. -/
def tagValue (tag : Option String) : Guard.Value := Guard.optText (.slot ["tag"]) tag

/-- The bindings as a dictionary. -/
def value (b : Bindings) : Guard.Value :=
  .dict
    ((b.callee.toList.map fun e => entry "callee" (.node e)) ++
     (b.shape.toList.map fun s => entry "shape" (.shape s)) ++
     (b.symbol.toList.flatMap fun s =>
        [entry "identity" (.symbol s.1), entry "tag" (tagValue s.2)]))
    (.slot ["bindings"])

/-- The names that guard expressions may use. -/
def scope (b : Bindings) (e : Expr) (u : CodeUnit) : Guard.Scope :=
  [("node", .node e), ("bindings", b.value), ("unit", .unit u),
   ("shape", (b.shape.map Guard.shapeText).getD .none),
   ("identity", (b.symbol.map fun s => Guard.Value.symbol s.1).getD .none),
   ("tag", tagValue b.tag?)]

end Bindings

/-- The answer of a guard. -/
inductive Verdict
  | passed (bindings : Bindings)
  | failed
  /-- The expression of this text has no value, which counts as not holding. -/
  | broken (text : String) (fault : Guard.Fault)

/-- Why a rule gives no answer. -/
inductive Halt
  | malformed (fault : Malformed)
  /-- A fault of an expression that does not count as not holding. -/
  | uncaught (fault : Guard.Fault)

/-! ## Rules -/

/-- One condition of a rule. -/
inductive Guard
  /-- A direct call with so many arguments. -/
  | callArity (count : Int)
  /-- The callee is a path; it is bound. -/
  | calleeIsPath
  /-- The type of the node has a shape; the shape is bound. -/
  | resultShape (shape : Shape)
  /-- The callee has an identity; it is bound with its tag. -/
  | resolves
  /-- An expression holds. One that is blank has no term and always holds. -/
  | expr (text : String) (term : Option Guard.Term)
  /-- A condition that other code brings, which may bind what it finds; none if it does not hold. -/
  | custom (name : String) (holds : Expr → Context → Bindings → Except Halt (Option Bindings))

/-- How a rule words its finding. -/
inductive Classifier
  /-- By the tag of the callee's identity; no other tag is a finding. -/
  | byTag (summaries : Table String String)
  /-- The same for every node; none is no finding. -/
  | constant (summary : Option String)
  /-- As other code words it; none is no finding. -/
  | custom (summary : Expr → Context → Bindings → Except Halt (Option String))

/-- What a rule tells about itself. -/
structure RuleDoc where
  whatItDoes : String
  whyBad : String
  knownProblems : String := "None."
  example_ : String := ""
deriving DecidableEq, Repr

/-- Keeps the first of equal texts in a sorted list. -/
def dropRepeated : List String → List String
  | a :: b :: r => if a = b then dropRepeated (b :: r) else a :: dropRepeated (b :: r)
  | l => l

/-- The texts sorted by their characters, each once. -/
def sortedSet (l : List String) : List String := dropRepeated (l.mergeSort fun a b => a ≤ b)

theorem dropRepeated_subset (l : List String) : ∀ a ∈ dropRepeated l, a ∈ l := by
  fun_induction dropRepeated l with
  | case1 a r ih => intro x hx; exact List.mem_cons_of_mem _ (ih x hx)
  | case2 a b r _ ih =>
    intro x hx
    rcases List.mem_cons.1 hx with rfl | hx
    · exact List.mem_cons_self
    · exact List.mem_cons_of_mem _ (ih x hx)
  | case3 l => intro x hx; exact hx

theorem nodup_dropRepeated (l : List String) (h : l.Pairwise (· ≤ ·)) : (dropRepeated l).Nodup := by
  fun_induction dropRepeated l with
  | case1 a r ih => exact ih h.of_cons
  | case2 a b r hab ih =>
    obtain ⟨ha, hr⟩ := List.pairwise_cons.1 h
    refine List.nodup_cons.2 ⟨fun hm => ?_, ih hr⟩
    -- what repeats `a` further on is above `b`, and `b` is above `a`
    have hle : b ≤ a := by
      rcases List.mem_cons.1 (dropRepeated_subset _ a hm) with rfl | hm
      · exact String.le_refl _
      · exact (List.pairwise_cons.1 hr).1 a hm
    exact hab (String.le_antisymm (ha b List.mem_cons_self) hle)
  | case3 l hl =>
    match l, hl with
    | [], _ => exact List.nodup_nil
    | [a], _ => simp
    | a :: b :: r, hl => exact absurd rfl (hl a b r)

theorem pairwise_le_mergeSort (l : List String) :
    (l.mergeSort fun a b => a ≤ b).Pairwise fun a b => decide (a ≤ b) = true := by
  apply List.pairwise_mergeSort
  · intro a b c hab hbc
    simp only [decide_eq_true_eq] at *
    exact String.le_trans hab hbc
  · intro a b
    simpa using String.le_total a b

theorem nodup_sortedSet (l : List String) : (sortedSet l).Nodup :=
  nodup_dropRepeated _ ((pairwise_le_mergeSort l).imp fun hab => by simpa using hab)

/-- A chain of guards with a name. -/
structure Rule where
  name : String
  category : String
  /-- The kinds of nodes it asks for, sorted and without repetition. -/
  nodeKinds : List String
  nodeKinds_nodup : nodeKinds.Nodup := by decide
  guards : List Guard
  classifier : Classifier
  help : String := ""
  severity : String
  doc : Option RuleDoc := none

/-- The level of each category. -/
def categoryLevels : List (String × String) :=
  [("correctness", "deny"), ("suspicious", "warn"), ("style", "warn"), ("complexity", "warn"),
   ("perf", "warn"), ("pedantic", "allow"), ("nursery", "allow"), ("restriction", "allow")]

/-- The severity of each level. -/
def levelSeverities : List (String × String) :=
  [("deny", "error"), ("warn", "warning"), ("allow", "note")]

/-- The severities there are. -/
def severities : List String := levelSeverities.map (·.2)

/-- The severity of rules of a category that name none. -/
def severityOfCategory (category : String) : String :=
  let level := (categoryLevels.lookup category).getD "warn"
  (levelSeverities.lookup level).getD "warning"

/-- The level of a severity; an unknown one counts as a warning. -/
def levelOfSeverity (severity : String) : String :=
  ((levelSeverities.find? fun e => e.2 = severity).map (·.1)).getD "warn"

/-- The level of a rule. -/
def Rule.level (r : Rule) : String := levelOfSeverity r.severity

/-- The name of the step that a guard is. -/
def Guard.name : Guard → String
  | .callArity _ => "call_arity"
  | .calleeIsPath => "callee_is_path"
  | .resultShape _ => "result_shape"
  | .resolves => "resolves_callee"
  | .expr text _ => "expr:" ++ text
  | .custom name _ => name

/-! ## Checking guards -/

namespace Guard

/-- The answer of an expression for a node. A fault that is not caught ends the evaluation. -/
def checkTerm (text : String) (term : Option Term) (e : Expr) (u : CodeUnit) (b : Bindings) :
    Except Halt Verdict :=
  match term with
  | none => .ok (.passed b)
  | some t =>
    match eval (b.scope e u) t with
    | .ok v => .ok (if v.isTruthy then .passed b else .failed)
    | .error fault => if fault.isCaught then .ok (.broken text fault) else .error (.uncaught fault)

/-- The answer of a guard that other code brings. -/
def checkCustom (holds : Expr → Context → Bindings → Except Halt (Option Bindings)) (e : Expr)
    (ctx : Context) (b : Bindings) : Except Halt Verdict := do
  match ← holds e ctx b with
  | some b => pure (.passed b)
  | none => pure .failed

/-- Checks a guard at a node. -/
def check (g : Guard) (e : Expr) (ctx : Context) (b : Bindings) : Except Halt Verdict :=
  match g with
  | .callArity count =>
    .ok (if e.kind = "Call" ∧ e.callee.isSome ∧ (e.args.length : Int) = count then .passed b
      else .failed)
  | .calleeIsPath =>
    match e.callee with
    | some callee =>
      .ok (if callee.kind = "Path" then .passed { b with callee := some callee } else .failed)
    | none => .ok .failed
  | .resultShape shape => do
    let actual ← (ctx.crate.types.shapeOf e.id).mapError .malformed
    pure (if actual = shape then .passed { b with shape := some actual } else .failed)
  | .resolves => do
    match ← (ctx.crate.resolve (b.callee.or e.callee)).mapError .malformed with
    | some path => pure (.passed { b with symbol := some (path, ctx.paths.lookup path) })
    | none => pure .failed
  | .expr text term => checkTerm text term e ctx.unit b
  | .custom _ holds => checkCustom holds e ctx b

end Guard

/-! ## Evaluating rules -/

/-- The answer of a rule at a node. -/
inductive Outcome
  | matched (diagnosis : Diagnosis)
  /-- The step of this name did not hold. -/
  | declined (step : String)
  /-- The expression of this text had no value, which counts as not holding. -/
  | broken (text : String) (fault : Guard.Fault)

/-- The name of the last step. -/
def classifyStep : String := "classify"

/-- The summary of what passed the guards, if it is a finding. -/
def Classifier.summary? (c : Classifier) (e : Expr) (ctx : Context) (b : Bindings) :
    Except Halt (Option String) :=
  match c with
  | .byTag summaries => .ok (b.tag?.bind summaries.get?)
  | .constant summary => .ok summary
  | .custom summary => summary e ctx b

namespace Rule

/-- What a finding tells besides its summary. -/
def extras (b : Bindings) (e : Expr) : Record :=
  (b.symbol.toList.map fun s => ("callee", .text s.1.text)) ++
  ((b.callee.bind (·.path)).toList.filterMap fun p =>
    if p = "" then none else some ("callee_text", .text p)) ++
  (b.shape.toList.map fun s => ("shape", .text s.name)) ++
  (e.text.toList.filterMap fun t => if t = "" then none else some ("snippet", .text t))

/-- The finding of a rule at a node. -/
def diagnose (r : Rule) (e : Expr) (u : CodeUnit) (b : Bindings) (summary : String) :
    Diagnosis where
  rule := r.name
  category := r.category
  severity := if r.severity = "" then "warning" else r.severity
  summary
  help := r.help
  location := e.location u
  unit := some u.name
  extras := extras b e

/-- The last step: classifies what passed the guards. -/
def conclude (r : Rule) (e : Expr) (ctx : Context) (b : Bindings) : Except Halt Outcome := do
  match ← r.classifier.summary? e ctx b with
  | some summary => pure (.matched (r.diagnose e ctx.unit b summary))
  | none => pure (.declined classifyStep)

/-- Checks guards in order, up to the first that does not hold, then concludes. -/
def run (r : Rule) (e : Expr) (ctx : Context) (b : Bindings) : List Guard → Except Halt Outcome
  | [] => r.conclude e ctx b
  | g :: rest =>
    match g.check e ctx b with
    | .error halt => .error halt
    | .ok (.passed b') => r.run e ctx b' rest
    | .ok .failed => .ok (.declined g.name)
    | .ok (.broken text fault) => .ok (.broken text fault)

/-- The answer of a rule at a node. -/
def evaluate (r : Rule) (e : Expr) (ctx : Context) : Except Halt Outcome := r.run e ctx {} r.guards

end Rule

/-! ## The rule that is always there -/

/-- Finds references made from memory that is zero or not initialized. -/
def invalidRef : Rule where
  name := "invalid_ref"
  category := "correctness"
  nodeKinds := ["Call"]
  guards := [.callArity 0, .calleeIsPath, .resultShape .reference, .resolves]
  classifier := .byTag ⟨[(PathTable.zeroFillTag, "null reference"),
    (PathTable.uninitTag, "uninitialized reference")]⟩
  help := "Creation of a null or uninitialized reference is undefined behavior; " ++
    "see https://doc.rust-lang.org/reference/behavior-considered-undefined.html"
  severity := severityOfCategory "correctness"
  doc := some {
    whatItDoes := "Checks for creation of references with uninitialized or null value."
    whyBad := "Creation of null references and uninitialized references is undefined " ++
      "behavior, even if they are not dereferenced."
    example_ := "let bad_ref: &usize = std::mem::zeroed();\n" ++
      "let also_bad_ref: &usize = std::mem::uninitialized();" }

end ChainLint
