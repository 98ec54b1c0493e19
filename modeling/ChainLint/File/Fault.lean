/-!
# What can go wrong with a file

Reports name only the class of such a fault. A name that no file can have is
told apart from what the system answers for a name that some file could have.
-/

namespace ChainLint

/-- Why a file was not opened. -/
inductive FileFault
  | notFound
  | isDirectory
  /-- A name on the way to the file is no directory. -/
  | notDirectory
  | notPermitted
  /-- The system refuses for some other reason, such as a name that is too long. -/
  | refused
  /-- The name holds a null character. -/
  | nullInName
  /-- The name, or the text to be written, holds half of a surrogate pair. -/
  | notEncodable
deriving DecidableEq, Repr

namespace FileFault

/-- The class of a fault. -/
def className : FileFault → String
  | .notFound => "FileNotFoundError"
  | .isDirectory => "IsADirectoryError"
  | .notDirectory => "NotADirectoryError"
  | .notPermitted => "PermissionError"
  | .refused => "OSError"
  | .nullInName => "ValueError"
  | .notEncodable => "UnicodeEncodeError"

/-- Whether the fault is an answer of the system. -/
def isAnswer : FileFault → Bool
  | .nullInName | .notEncodable => false
  | _ => true

/-- The class as a message shows it. -/
def shown (fault : FileFault) : String := "<" ++ fault.className ++ ">"

end FileFault

end ChainLint
