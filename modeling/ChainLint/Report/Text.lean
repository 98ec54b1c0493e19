import ChainLint.Datum.Literal
import ChainLint.Rule.Basic
import ChainLint.Warning
/-!
# Diagnoses as text

A diagnosis takes a few lines, as a compiler writes them; a report ends with a
line of counts. The documentation of a rule is written in the same manner.
-/

namespace ChainLint

/-- The value of a record under a name. -/
def Record.get? (r : Record) (name : String) : Option Datum := (r.find? fun e => e.1 = name).map (·.2)

namespace Report

/-- The lines of a diagnosis; none if its location lacks file, line or column. -/
def lines? (d : Diagnosis) : Option (List String) := do
  let file ← Record.get? d.location "file"
  let line ← Record.get? d.location "line_start"
  let col ← Record.get? d.location "col_start"
  let note :=
    if d.internal then
      "   = note: analysis of \x60" ++ (d.unit.getD "None") ++ "\x60 was aborted"
    else
      "   = note: #[" ++ levelOfSeverity d.severity ++ "(" ++ toolName ++ "::" ++ d.rule ++
        ")] on by default"
  let help := if d.help = "" then [] else ["   = help: " ++ d.help]
  pure ([d.severity ++ ": " ++ d.summary,
    "  --> " ++ file.display ++ ":" ++ line.display ++ ":" ++ col.display, note] ++ help)

/-- A diagnosis as text. -/
def diagnosis? (d : Diagnosis) : Option String := (lines? d).map fun ls => "\n".intercalate ls

/-- Whether a diagnosis is an error. -/
def isError (d : Diagnosis) : Bool := d.severity = "error"

/-- The line of counts. -/
def summary (ds : List Diagnosis) : String :=
  s!"{toolName}: {ds.length} diagnostic(s), {ds.countP isError} error(s)"

/-- Diagnoses as a text, with the counts last. -/
def text? (ds : List Diagnosis) : Option String := do
  let blocks ← ds.mapM diagnosis?
  pure ("\n\n".intercalate (blocks ++ [summary ds]))

/-- The lines of a text. -/
def textLines (s : String) : List String := s.splitOn "\n"

/-- The documentation of a rule. -/
def ruleDocs (r : Rule) : String :=
  let head := r.name ++ " [" ++ r.category ++ ", " ++ r.level ++ "]"
  let rest := match r.doc with
    | none => []
    | some doc =>
      ["    What it does: " ++ doc.whatItDoes] ++
      (if doc.whyBad = "" then [] else ["    Why is this bad? " ++ doc.whyBad]) ++
      ["    Known problems: " ++ doc.knownProblems] ++
      (if doc.example_ = "" then []
       else "    Example:" :: (textLines doc.example_).map fun line => "        " ++ line)
  "\n".intercalate (head :: rest)

end Report

end ChainLint
