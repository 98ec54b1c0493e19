import ChainLint.Rule.Reading
import ChainLint.Stop
import ChainLint.Told
/-!
# Rules in files

A file holds any number of documents, and a document a rule, a list of rules or
a mapping with a list of rules. A file that cannot be read costs only itself,
and a mapping that describes no rule too.
-/

namespace ChainLint.Rule

/-- The mappings among values. -/
def mappings (ds : List Datum) : List (List (Datum × Datum)) :=
  ds.filterMap fun d =>
    match d.core with
    | .map entries => some entries
    | _ => none

/-- The mappings of a document that may describe rules. -/
def candidates (d : Datum) : List (List (Datum × Datum)) :=
  match d.core with
  | .list items => mappings items
  | .map entries =>
    match (Datum.field? "rules" entries).map Datum.core with
    | some (.list items) => mappings items
    | _ => [entries]
  | _ => []

/-- The mappings of documents, each with the text that says where it stands; `number` documents
come before. -/
def sited (path : String) (number : Nat) : List Datum → List (String × List (Datum × Datum))
  | [] => []
  | d :: r =>
    (candidates d).map (fun entries => (s!"{path}#doc{number + 1}", entries)) ++
      sited path (number + 1) r

/-- The rules of mappings; a mapping that is none is told. -/
def ofMappings : List (String × List (Datum × Datum)) → Told Stop (List Rule)
  | [] => pure []
  | (origin, entries) :: r =>
    match ofEntries origin entries with
    | .ok rule => do return rule :: (← ofMappings r)
    | .error (.skipped w) => do
      Told.warn w
      ofMappings r
    | .error (.misused misuse) => Told.stop (.misuse misuse)

/-- The rules of a file. -/
def ofFile (path : String) (content : Content) : Told Stop (List Rule) :=
  match Document.all content with
  | .ok ds => ofMappings (sited path 0 ds)
  | .error (.file .notFound) => do
    Told.warn (.ruleFileNotFound path)
    return []
  | .error fault =>
    match fault.cause? with
    | some cause => do
      Told.warn (.ruleFileUnreadable path cause)
      return []
    | none => Told.stop (.document fault)

/-- The rules of files, in order. -/
def ofFiles : List (String × Content) → Told Stop (List Rule)
  | [] => pure []
  | (path, content) :: r => do return (← ofFile path content) ++ (← ofFiles r)

end ChainLint.Rule
