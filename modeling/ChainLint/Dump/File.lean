import ChainLint.Dump.Crate
import ChainLint.Stop
/-!
# Crates in files

A file that is no text or no YAML is a malformed dump.
-/

namespace ChainLint.Dump

/-- The crate of a file. -/
def ofFile (path : String) (content : Content) : Except Stop Crate :=
  match Document.single content with
  | .ok doc =>
    match crate path doc with
    | .ok c => .ok c
    | .error fault => .error fault.stop
  | .error .notText => .error (.dump (.unreadable path Document.notTextCause))
  | .error .malformed => .error (.dump (.unreadable path Document.malformedCause))
  | .error fault => .error (.document fault)

end ChainLint.Dump
