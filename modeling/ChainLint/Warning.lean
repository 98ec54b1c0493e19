import ChainLint.Datum.Literal
import ChainLint.Dump.Fault
import ChainLint.Guard.Fault
import ChainLint.PathTable
/-!
# Warnings

Everything that is skipped or cut short is told in one line of warning, which
starts with the name of the tool.
-/

namespace ChainLint

/-- The name of the tool. -/
def toolName : String := "guardlint"

/-- The version of the tool. -/
def toolVersion : String := "0.1.0"

/-- What a warning is about. -/
inductive Warning
  /-- An expression of a rule had no value. -/
  | brokenGuard (rule text : String) (fault : Guard.Fault)
  /-- A unit contradicts itself. -/
  | aborted (unit crate : String) (fault : Malformed)
  | missingFields (origin : String) (fields : List String)
  | skippedRule (rule origin reason : String)
  | ruleFileNotFound (path : String)
  | ruleFileUnreadable (path cause : String)
  | configNotFound (path : String)
  | configUnreadable (path cause : String)
  | configNotMapping (path : String)
  | incompletePath (index : Nat) (config : String)
  | refusedPath (index : Nat) (config : String) (fault : DumpFault)
  | duplicateRule (fault : RegistryFault)
  | refusedPaths (fault : RegistryFault)
  | skippedDump (path cause : String)

namespace Warning

/-- The warning in words. -/
def body : Warning → String
  | .brokenGuard rule text fault =>
    "Failed to evaluate guard expression for rule '" ++ rule ++ "': " ++ Text.quoted text ++ " (" ++
      fault.message ++ ")."
  | .aborted unit crate fault =>
    "Aborted analysis of '" ++ unit ++ "' in crate '" ++ crate ++ "': " ++ fault.message
  | .missingFields origin fields =>
    "Skipping rule from " ++ origin ++ ": missing required field(s) " ++
      (Datum.list (fields.map .text)).literal ++ "."
  | .skippedRule rule origin reason =>
    "Skipping rule '" ++ rule ++ "' from " ++ origin ++ ": " ++ reason
  | .ruleFileNotFound path => "Rule file not found: " ++ path
  | .ruleFileUnreadable path cause => "Could not read rule file " ++ path ++ ": " ++ cause
  | .configNotFound path => "Config file not found: " ++ path
  | .configUnreadable path cause => "Could not read config file " ++ path ++ ": " ++ cause
  | .configNotMapping path => "Ignoring config file " ++ path ++ ": top level must be a mapping."
  | .incompletePath index config =>
    s!"Skipping paths[{index}] in {config}: expected 'path' and 'tag'."
  | .refusedPath index config fault => s!"Skipping paths[{index}] in {config}: " ++ fault.message
  | .duplicateRule fault => "Skipping rule: " ++ fault.message
  | .refusedPaths fault => "Ignoring configured paths: " ++ fault.message
  | .skippedDump path cause => "Skipping dump " ++ path ++ ": " ++ cause

/-- The line that is written. -/
def text (w : Warning) : String := "[" ++ toolName ++ "] " ++ w.body

end Warning

end ChainLint
