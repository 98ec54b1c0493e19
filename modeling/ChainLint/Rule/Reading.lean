import ChainLint.Datum.Whole
import ChainLint.Guard.Reading
import ChainLint.Rule.Basic
import ChainLint.Warning
/-!
# Rules from documents

A rule is written as a mapping. A mapping that describes no rule is skipped
with a warning that says why; checks come in a fixed order, and the first
failure is the one reported.
-/

namespace ChainLint

/-- Why a mapping gives no rule. -/
inductive RuleFault
  /-- The rule is skipped with a warning. -/
  | skipped (warning : Warning)
  | misused (misuse : Datum.Misuse)

namespace Rule

/-- Why one guard is not understood. -/
inductive GuardFault
  /-- The guard takes no other value than true. -/
  | notTrue (kind : String)
  /-- The count of arguments is no whole number. -/
  | notWhole (fault : Datum.WholeFault)
  | unknownShape (value : Datum)
  | unknownKind (kind : String)
  | expression (text : String) (fault : Guard.ReadFault)

/-- What is wrong with a guard, in words. -/
def GuardFault.message : GuardFault → String
  | .notTrue kind => "guard '" ++ kind ++ "' only accepts true"
  | .notWhole .unsuitable => "<TypeError>"
  | .notWhole fault => fault.message
  | .unknownShape value => "unknown type shape " ++ value.literal
  | .unknownKind kind => "unknown guard kind '" ++ kind ++ "'"
  | .expression text fault => fault.message (Text.trim text)

/-- The fields that a rule has to have. -/
def requiredFields : List String := ["name", "category", "node_kinds", "classify"]

/-- The required fields that are absent or bare. -/
def missingFields (entries : List (Datum × Datum)) : List String :=
  requiredFields.filter fun field => ((Datum.field? field entries).getD .null).isBare

/-- The shape that a value names, in capitals or not. -/
def shapeOf? (d : Datum) : Option Shape :=
  Shape.ofName? (String.ofList (d.display.toList.map Char.toLower))

/-- The guard that a kind and a value describe. -/
def guard (kind : String) (value : Datum) : Except GuardFault Guard :=
  match kind with
  | "callee_is_path" => if value.isTrue then .ok .calleeIsPath else .error (.notTrue kind)
  | "resolves" => if value.isTrue then .ok .resolves else .error (.notTrue kind)
  | "call_arity" =>
    match value.toWhole with
    | .ok n => .ok (.callArity n)
    | .error fault => .error (.notWhole fault)
  | "result_shape" =>
    match shapeOf? value with
    | some shape => .ok (.resultShape shape)
    | none => .error (.unknownShape value)
  | "expr" =>
    let text := value.display
    match Guard.ofText text with
    | .ok term => .ok (.expr text term)
    | .error fault => .error (.expression text fault)
  | _ => .error (.unknownKind kind)

/-- The warning that a rule is skipped. -/
def skip (name origin reason : String) : RuleFault := .skipped (.skippedRule name origin reason)

/-- The guard that a document value describes: a mapping of one entry. -/
def readGuard (name origin : String) (d : Datum) : Except RuleFault Guard :=
  match d.core with
  | .map [(key, value)] =>
    match guard key.display value with
    | .ok g => .ok g
    | .error (.notWhole .infinite) => .error (.misused .infinite)
    | .error fault => .error (skip name origin (fault.message ++ "."))
  | _ => .error (skip name origin "each guard must be a single-key mapping.")

/-- The guards that values describe, up to the first that is not understood. -/
def readGuards (name origin : String) : List Datum → Except RuleFault (List Guard)
  | [] => .ok []
  | d :: r => do
    let g ← readGuard name origin d
    return g :: (← readGuards name origin r)

/-- The summaries by tag. -/
def summaries (entries : List (Datum × Datum)) : Table String String :=
  Table.ofList (entries.map fun e => (e.1.display, e.2.display))

/-- The text of a field, null included; an absent field is empty. -/
def textField (field : String) (entries : List (Datum × Datum)) : String :=
  ((Datum.field? field entries).map Datum.display).getD ""

/-- The documentation, if there is a description. -/
def readDoc (entries : List (Datum × Datum)) : Option RuleDoc :=
  match Datum.field? "description" entries with
  | some d =>
    if d.isTruthy then some { whatItDoes := d.display, whyBad := textField "why" entries } else none
  | none => none

/-- Severities as a warning lists them. -/
def severityList : String := (Datum.list ((sortedSet severities).map .text)).literal

/-- The severity that a rule asks for; none if it asks for none. -/
def readSeverity (name origin : String) (entries : List (Datum × Datum)) :
    Except RuleFault (Option String) :=
  match Datum.field? "severity" entries with
  | none => .ok none
  | some d =>
    if !d.isTruthy then .ok none
    else if severities.contains d.display then .ok (some d.display)
    else
      .error (skip name origin ("unknown severity " ++ d.literal ++ " (expected one of " ++
        severityList ++ ")."))

/-- The rule that a mapping describes. -/
def ofEntries (origin : String) (entries : List (Datum × Datum)) : Except RuleFault Rule := do
  let missing := missingFields entries
  if !missing.isEmpty then throw (.skipped (.missingFields origin missing))
  let field := fun k => (Datum.field? k entries).getD .null
  let name := (field "name").display
  let tags ← match (field "classify").core with
    | .map tags => pure tags
    | _ => throw (skip name origin "'classify' must map tags to summaries.")
  let severity ← readSeverity name origin entries
  let items ← match Datum.fieldItems (Datum.field? "guards" entries) with
    | .ok items => pure items
    | .error misuse => throw (.misused misuse)
  let guards ← readGuards name origin items
  let category := (field "category").display
  pure {
    name, category, guards
    nodeKinds := sortedSet (Datum.textList (field "node_kinds"))
    nodeKinds_nodup := nodup_sortedSet _
    classifier := .byTag (summaries tags)
    help := textField "help" entries
    severity := severity.getD (severityOfCategory category)
    doc := readDoc entries }

end Rule

end ChainLint
