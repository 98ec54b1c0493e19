/-!
# Why a YAML text has no value

Most texts that fail are malformed YAML. A few are well formed and fail in the
making of a value: a tag asks for a number, a truth value or a time, and the
text is none. Reports name only the class of such a fault.
-/

namespace ChainLint.Yaml

/-- Why there is no value. -/
inductive Fault
  | malformed
  /-- A text asked to be a number is none, or an escape names no character, or a time is not in the
  calendar. -/
  | unsuitable
  /-- An escape names a number too large to be looked up. -/
  | tooLarge
  /-- A text asked to be a whole number has no digits at all. -/
  | noDigits
  /-- A text asked to be a truth value is none. -/
  | noTruth
  /-- A text asked to be a time has not the form of one. -/
  | noTime
  /-- A mapping is asked to be a time. -/
  | mappingAsTime
deriving DecidableEq, Repr

/-- The class of a fault, malformed texts aside. -/
def Fault.className? : Fault → Option String
  | .malformed => none
  | .unsuitable => some "ValueError"
  | .tooLarge => some "OverflowError"
  | .noDigits => some "IndexError"
  | .noTruth => some "KeyError"
  | .noTime => some "AttributeError"
  | .mappingAsTime => some "TypeError"

end ChainLint.Yaml
