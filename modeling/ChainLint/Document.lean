import ChainLint.File.Access
import ChainLint.File.Text
import ChainLint.Yaml.Draft
/-!
# Documents in files

A document is the value of a YAML text in a file. Many faults only cost the
file; a value that cannot be made out of well-formed YAML is graver.
-/

namespace ChainLint.Document

/-- Why a file gives no document. -/
inductive Fault
  | file (fault : FileFault)
  /-- The bytes are no UTF-8. -/
  | notText
  | malformed
  /-- The text is well-formed YAML, but some value cannot be made. -/
  | noValue (fault : Yaml.Fault)
deriving DecidableEq, Repr

/-- What a report names for bytes that are no text. -/
def notTextCause : String := "<UnicodeDecodeError>"

/-- What a report names for malformed YAML. -/
def malformedCause : String := "<YAMLError>"

/-- What a report names, for the faults that only cost the file. -/
def Fault.cause? : Fault → Option String
  | .file fault => if fault.isAnswer then some fault.shown else none
  | .notText => some notTextCause
  | .malformed => some malformedCause
  | .noValue _ => none

/-- A fault of YAML as a fault of a document. -/
def Fault.ofYaml : Yaml.Fault → Fault
  | .malformed => .malformed
  | fault => .noValue fault

/-- The text of a file. -/
def text : Content → Except Fault String
  | .error fault => .error (.file fault)
  | .ok bytes =>
    match FileText.decode? bytes with
    | some s => .ok s
    | none => .error .notText

/-- What a reader of YAML makes of the text of a file. -/
def readWith {α : Type} (read : String → Except Yaml.Fault α) (content : Content) :
    Except Fault α :=
  match text content with
  | .error fault => .error fault
  | .ok s =>
    match read s with
    | .ok a => .ok a
    | .error fault => .error (.ofYaml fault)

/-- The document of a file, which has one at most. -/
def single (content : Content) : Except Fault Datum := readWith Yaml.load content

/-- A file that holds the text of one document gives this document. -/
theorem single_toUTF8 {s : String} {d : Datum} (h : '\r' ∉ s.toList) (hd : Yaml.load s = .ok d) :
    single (.ok s.toUTF8) = .ok d := by
  simp only [single, readWith, text, FileText.decode?_toUTF8 h, hd]

/-- The documents of a file. -/
def all (content : Content) : Except Fault (List Datum) := readWith Yaml.loadAll content

end ChainLint.Document
