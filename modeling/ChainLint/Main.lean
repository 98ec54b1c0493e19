import ChainLint.Cli.Run
/-!
# The program

Connects runs to the file system, the environment and the standard streams.
-/

namespace ChainLint.Cli

/-- The environment variable that names a configuration. -/
def configVariable : String := "GUARDLINT_CONFIG"

/-- How the program is called. -/
def usage : String :=
  "usage: guardlint [-h] [--version] command ...\n" ++
  "  check [--config FILE] [--rules FILE ...] [--format text|json] [--out FILE] [--jobs N] DUMP ...\n" ++
  "  rules [--config FILE] [--rules FILE ...]\n" ++
  "  " ++ configVariable ++ " names the configuration if no option does\n"

/-- The answer of the system to an access. -/
def faultOf : IO.Error → FileFault
  | .noFileOrDirectory .. => .notFound
  | .inappropriateType _ code _ => if code = 20 then .notDirectory else .isDirectory
  | .permissionDenied .. => .notPermitted
  | _ => .refused

/-- What an access gives. -/
def attempt {α : Type} (name : String) (action : IO α) : IO (Except FileFault α) := do
  if !FileText.isEncodable name then return .error .notEncodable
  if name.toList.contains '\x00' then return .error .nullInName
  try return .ok (← action)
  catch e => return .error (faultOf e)

/-- Access to the file system. -/
def systemFiles : IO (FileAccess IO) := do
  let directory ← IO.currentDir
  return {
    directory := directory.toString
    read := fun name => attempt name (IO.FS.readBinFile name)
    write := fun name content => attempt name (IO.FS.writeBinFile name content) }

/-- The reason why a run was cut short, for the error stream. -/
def reasonOf : Stop → String
  | .document (.file fault) => fault.className
  | .document (.noValue fault) => fault.className?.getD Document.malformedCause
  | .document fault => fault.cause?.getD ""
  | .dump fault => fault.message
  | .misuse .noItems => "a value has no items"
  | .misuse .infinite => "infinity is no whole number"
  | .guard fault => fault.message
  | .registry fault => fault.message
  | .noJobs => "--jobs needs a number"
  | .output fault => fault.className

end ChainLint.Cli

open ChainLint ChainLint.Cli in
/-- Runs a command line and ends with its status. -/
def main (line : List String) : IO UInt32 := do
  let told ← run (← systemFiles) (← IO.getEnv configVariable) line
  for w in told.warnings do IO.eprintln w.text
  match told.result with
  | .ok answer =>
    match answer with
    | .help => IO.print usage
    | .misused => IO.eprint usage
    | .done _ output => IO.print output
    return answer.status.toUInt32
  | .error stop =>
    IO.eprintln s!"{toolName}: {reasonOf stop}"
    return 1
