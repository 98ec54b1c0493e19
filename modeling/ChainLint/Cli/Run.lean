import ChainLint.Cli.Command
import ChainLint.Report.Json
import ChainLint.Report.Text
import ChainLint.Session
/-!
# Runs

A run reads its configuration, the rule files and the dumps, and ends with an
answer. What it answers depends only on the contents of these files; its
surroundings do nothing but read and write.
-/

namespace ChainLint.Cli

/-- What a run answers. -/
inductive Answer
  /-- A status, and a text on the standard output. -/
  | done (status : Nat) (output : String)
  | help
  | misused

namespace Answer

/-- The status of a run. -/
def status : Answer → Nat
  | .done status _ => status
  | .help => 0
  | .misused => 2

/-- The standard output, calls for help aside. -/
def output : Answer → String
  | .done _ output => output
  | .help | .misused => ""

end Answer

/-- What `--version` writes. -/
def versionLine : String := toolName ++ " " ++ toolVersion ++ "\n"

/-- The answer to a command line that asks for no command. -/
def NoCommand.answer : NoCommand → Answer
  | .help => .help
  | .version => .done 0 versionLine
  | .misused => .misused

/-- The documentation of the rules of a session. -/
def rulesText (session : Session) : String :=
  "\n\n".intercalate (session.registry.rules.map Report.ruleDocs) ++ "\n"

/-- Diagnoses in a format, with a line feed at the end. -/
def reportText (format : Format) (ds : List Diagnosis) : String :=
  match format with
  | .json => Report.json ds ++ "\n"
  | .text => (Report.text? ds).getD "" ++ "\n"

/-- The status of a run that found these diagnoses: one if some are errors. -/
def foundStatus (ds : List Diagnosis) : Nat := if ds.any Report.isError then 1 else 0

/-- The first of two names that is there and not empty. -/
def configName? (option environment : Option String) : Option String :=
  (option.filter (· ≠ "")).or (environment.filter (· ≠ ""))

variable {m : Type → Type} [Monad m]

/-- Reads the configuration of a name. -/
def readConfig (access : FileAccess m) : Option String → m (Told Stop Config)
  | none => return pure Config.empty
  | some path => do return Config.ofFile access.directory path (← access.read path)

/-- Reads the session that options ask for. -/
def readSession (access : FileAccess m) (environment : Option String) (o : Options) :
    m (Told Stop Session) := do
  let config ← readConfig access (configName? o.config environment)
  let configured := (config.value?.map Config.ruleFiles).getD []
  let contents ← access.readAll (configured ++ o.ruleFiles)
  return do Session.configured (← config) (← Rule.ofFiles contents)

/-- Writes a text to a file. A text that cannot be written leaves the file empty. -/
def writeText (access : FileAccess m) (name text : String) : m (Except FileFault Unit) := do
  if FileText.isEncodable text then access.write name text.toUTF8
  else
    match ← access.write name ByteArray.empty with
    | .ok () => return .error .notEncodable
    | .error fault => return .error fault

/-- Writes a report to the file that is asked for, or else to the standard output. -/
def deliver (access : FileAccess m) (out : Option String) (status : Nat) (report : String) :
    m (Except Stop Answer) := do
  match out.filter (· ≠ "") with
  | none => return .ok (.done status report)
  | some name =>
    match ← writeText access name report with
    | .ok () => return .ok (.done status "")
    | .error fault => return .error (.output fault)

/-- Analyses dumps and delivers the report. -/
def runCheck (access : FileAccess m) (environment : Option String) (o : Options) :
    m (Told Stop Answer) := do
  let session ← readSession access environment o
  let dumps ← access.readAll o.dumps
  let found : Told Stop (List Diagnosis) := do (← session).check o.jobs Memory.empty dumps
  match found.result with
  | .error stop => return ⟨found.warnings, .error stop⟩
  | .ok ds => return ⟨found.warnings, ← deliver access o.out (foundStatus ds) (reportText o.format ds)⟩

/-- Runs a command line; `environment` names the configuration if no option does. -/
def run (access : FileAccess m) (environment : Option String) (line : List String) :
    m (Told Stop Answer) := do
  match Command.ofLine line with
  | .error reason => return pure reason.answer
  | .ok (.check o) => runCheck access environment o
  | .ok (.rules o) =>
    let session ← readSession access environment o
    return do return .done 0 (rulesText (← session))

end ChainLint.Cli
