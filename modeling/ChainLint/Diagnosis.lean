import ChainLint.Datum.Basic
import ChainLint.Tree.Crate
/-!
# Diagnoses

A diagnosis is one finding: which rule found it, how grave it is, what it is
and where. A unit that contradicts itself gives a single internal diagnosis.
-/

namespace ChainLint

/-- Named values in a fixed order. -/
abbrev Record := List (String × Datum)

/-- One finding. -/
structure Diagnosis where
  rule : String
  category : String
  severity : String
  summary : String
  help : String
  location : Record
  unit : Option String := none
  internal : Bool := false
  extras : Record := []
deriving Repr

/-- A span as a record. -/
def Span.record (s : Span) : Record :=
  [("file", .text s.file), ("line_start", .int s.lineStart), ("col_start", .int s.colStart),
   ("line_end", .int s.lineEnd), ("col_end", .int s.colEnd)]

/-- Where a node stands: its span, or else the beginning of its unit's file. -/
def Expr.location (e : Expr) (u : CodeUnit) : Record :=
  (e.span.getD ⟨u.file, 0, 0, 0, 0⟩).record

/-- The name under which inconsistent units are reported. -/
def internalRule : String := "internal-error"

/-- The finding that a unit contradicts itself. -/
def Diagnosis.ofMalformed (u : CodeUnit) (fault : Malformed) : Diagnosis where
  rule := internalRule
  category := "internal"
  severity := "error"
  summary := "internal error while analyzing \x60" ++ u.name ++ "\x60: " ++ fault.message
  help := "the typed tree handed over by the compiler is inconsistent for this unit"
  location := u.body.location u
  unit := some u.name
  internal := true

end ChainLint
