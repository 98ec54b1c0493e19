import ChainLint.Dump.Field
import ChainLint.File.Path
import ChainLint.Stop
import ChainLint.Told
/-!
# The configuration

A configuration names further well-known paths, rule files and rules to leave
out. Rule files are seen from the directory of the configuration.
-/

namespace ChainLint

/-- What is configured. -/
structure Config where
  paths : List (SymbolPath × String) := []
  ruleFiles : List String := []
  disabled : List String := []
deriving DecidableEq, Repr

namespace Config

/-- Nothing configured. -/
def empty : Config := {}

/-- The path and tag of an entry; both have to count as true. -/
def pathFields? (d : Datum) : Option (Datum × Datum) :=
  match d.core with
  | .map entries => do
    let path ← Datum.field? "path" entries
    let tag ← Datum.field? "tag" entries
    if path.isTruthy && tag.isTruthy then some (path, tag) else none
  | _ => none

/-- The registration that the entry of an index asks for. -/
def pathEntry (config : String) (index : Nat) (d : Datum) :
    Except Warning (SymbolPath × String) :=
  match pathFields? d with
  | none => .error (.incompletePath index config)
  | some (path, tag) =>
    match Dump.splitPath path with
    | .ok segments => .ok (⟨segments⟩, tag.display)
    | .error fault => .error (.refusedPath index config fault)

/-- The registrations of entries from an index on; an entry without one is told. -/
def pathEntries (config : String) (index : Nat) :
    List Datum → Told Stop (List (SymbolPath × String))
  | [] => pure []
  | d :: r =>
    match pathEntry config index d with
    | .ok e => do return e :: (← pathEntries config (index + 1) r)
    | .error w => do
      Told.warn w
      pathEntries config (index + 1) r

/-- The texts under a key. -/
def texts (key : String) (entries : List (Datum × Datum)) : List String :=
  Datum.textList ((Datum.field? key entries).getD .null)

/-- The configuration that the mapping in a file describes. -/
def ofEntries (directory path : String) (entries : List (Datum × Datum)) : Told Stop Config :=
  match Datum.fieldItems (Datum.field? "paths" entries) with
  | .error misuse => Told.stop (.misuse misuse)
  | .ok items => do
    let paths ← pathEntries path 0 items
    let home := FilePath.parent (FilePath.absolute directory path)
    return {
      paths
      ruleFiles := (texts "rules" entries).map (FilePath.join home)
      disabled := texts "disable" entries }

/-- The configuration in a file. -/
def ofFile (directory path : String) (content : Content) : Told Stop Config :=
  match Document.single content with
  | .ok doc =>
    match doc.core with
    | .null => pure empty
    | .map entries => ofEntries directory path entries
    | _ => do
      Told.warn (.configNotMapping path)
      return empty
  | .error (.file .notFound) => do
    Told.warn (.configNotFound path)
    return empty
  | .error fault =>
    match fault.cause? with
    | some cause => do
      Told.warn (.configUnreadable path cause)
      return empty
    | none => Told.stop (.document fault)

end Config

end ChainLint
