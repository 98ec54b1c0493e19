import ChainLint.Datum.Literal
/-!
# What can be wrong with a dump

A malformed dump is told apart from two faults that are no statement about its
format: a whole number was asked of infinity, or the items of something that
has none.
-/

namespace ChainLint

/-- How a dump departs from its format. -/
inductive DumpFault
  | expectedPath (value : Datum)
  | invalidPath (value : Datum)
  | notWhole (what : String) (value : Datum)
  | notMapping (what : String)
  | spanLength (value : Datum)
  | unsupportedSpan (value : Datum)
  | unsupportedRes (value : Datum)
  | notNode (value : Datum)
  | incompleteNode (value : Datum)
  | duplicateNode (id : Int)
  | notDocument (origin : String)
  | typeWithoutKind (origin : String) (id : Int)
  | defWithoutPath (origin : String) (id : Int)
  | unitsNotList (origin : String)
  | unitWithoutBody (origin : String) (number : Nat)
  /-- The file is no YAML, or no UTF-8; `cause` names which. -/
  | unreadable (origin : String) (cause : String)

namespace DumpFault

/-- The fault in words. -/
def message : DumpFault → String
  | .expectedPath v => "expected a path, got " ++ v.literal
  | .invalidPath v => "invalid path " ++ v.literal
  | .notWhole what v => what ++ " must be an integer, got " ++ v.literal
  | .notMapping what => what ++ " must be a mapping"
  | .spanLength v => "span must have 4 items, got " ++ v.literal
  | .unsupportedSpan v => "unsupported span " ++ v.literal
  | .unsupportedRes v => "unsupported res " ++ v.literal
  | .notNode v => "expression node must be a mapping, got " ++ v.literal
  | .incompleteNode v => "expression node is missing 'id' or 'kind': " ++ v.literal
  | .duplicateNode id => s!"duplicate node id {id}"
  | .notDocument origin => origin ++ ": top-level document must be a mapping"
  | .typeWithoutKind origin id => s!"{origin}: type {id} has no kind"
  | .defWithoutPath origin id => s!"{origin}: def {id} has no path"
  | .unitsNotList origin => origin ++ ": 'units' must be a list"
  | .unitWithoutBody origin number => s!"{origin}: unit #{number} has no body"
  | .unreadable origin cause => origin ++ ": could not parse dump: " ++ cause

end DumpFault

/-- Why a dump was not loaded. -/
inductive LoadFault
  | malformed (fault : DumpFault)
  | misused (misuse : Datum.Misuse)

end ChainLint
