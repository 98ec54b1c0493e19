import ChainLint.Analysis
import ChainLint.Config
import ChainLint.Dump.File
import ChainLint.Rule.File
import ChainLint.Rule.Registry
/-!
# Sessions

A session is what a run analyses with: the standard rules and those of rule
files, less the disabled ones, and the standard paths with the configured ones.
A rule whose name is taken is told and left out. Configured paths are taken all
together or not at all.
-/

namespace ChainLint

/-- The rules and well-known paths of a run. -/
structure Session where
  registry : Registry
  paths : PathTable

/-- Registers rules in order; a rule that is refused is told. -/
def Registry.extend (registry : Registry) : List Rule → Told Stop Registry
  | [] => pure registry
  | rule :: rest =>
    match registry.register rule with
    | .ok registry => registry.extend rest
    | .error fault => do
      Told.warn (.duplicateRule fault)
      registry.extend rest

/-- The registry without disabled rules. -/
def Registry.disable (registry : Registry) (names : List String) : Told Stop Registry :=
  if names.isEmpty then pure registry
  else
    match registry.without names with
    | .ok registry => pure registry
    | .error fault => Told.stop (.registry fault)

/-- The standard paths with configured ones; if one is refused this is told, and none is taken. -/
def PathTable.configured (extra : List (SymbolPath × String)) : Told Stop PathTable :=
  if extra.isEmpty then pure standard
  else
    match extended extra with
    | .ok table => pure table
    | .error fault => do
      Told.warn (.refusedPaths fault)
      return standard

/-- The session of a configuration and the rules of its files. -/
def Session.configured (config : Config) (rules : List Rule) : Told Stop Session := do
  let registry ← Registry.standard.extend rules
  let registry ← registry.disable config.disabled
  return { registry, paths := ← PathTable.configured config.paths }

/-- Analyses the dumps in files, in order. A dump that cannot be loaded is told and skipped. How
many units may be analysed at a time does not change what is found, but it has to be said. -/
def Session.check (session : Session) (jobs : Option Int) (memory : Memory) :
    List (String × Content) → Told Stop (List Diagnosis)
  | [] => pure []
  | (path, content) :: rest =>
    match Dump.ofFile path content with
    | .ok crate =>
      if jobs.isNone then Told.stop .noJobs
      else
        let found := analyzeCrate session.registry session.paths memory crate
        match found.stopped with
        | some fault => do
          Told.warnAll found.warnings
          Told.stop (.guard fault)
        | none => do
          Told.warnAll found.warnings
          return found.diagnoses ++ (← session.check jobs found.memory rest)
    | .error stop =>
      match stop.dumpCause? with
      | some cause => do
        Told.warn (.skippedDump path cause)
        session.check jobs memory rest
      | none => Told.stop stop

end ChainLint
