import ChainLint.File.Fault
/-!
# Access to files

What a run needs from its surroundings: the directory that names are seen from,
and the means to read and write whole files.
-/

namespace ChainLint

/-- What reading a file gives. -/
abbrev Content := Except FileFault ByteArray

/-- The files around a run. -/
structure FileAccess (m : Type → Type) where
  /-- The directory, from the root, that other names are seen from. -/
  directory : String
  read : String → m Content
  /-- Replaces the content of a file, which is made if it is missing. -/
  write : String → ByteArray → m (Except FileFault Unit)

/-- Reads files in order, each with its name. -/
def FileAccess.readAll {m : Type → Type} [Monad m] (access : FileAccess m) (names : List String) :
    m (List (String × Content)) :=
  names.mapM fun name => do return (name, ← access.read name)

end ChainLint
