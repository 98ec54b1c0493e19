import ChainLint.File.Access
import ChainLint.File.Path
import ChainLint.File.Text
import ChainLint.Table
/-!
# Files in memory

A store holds directories and files by their places, lists of names from the
root. A name is followed part by part: every part but the last has to be a
directory, two points go up, and a slash at the end asks for a directory.
-/

namespace ChainLint

/-- What stands at a place. -/
inductive FileEntry
  | directory
  | file (content : ByteArray)

/-- Directories and files by place; the root needs no entry. -/
structure FileStore where
  entries : Table (List String) FileEntry

namespace FileStore

/-- The store with nothing but the root. -/
def empty : FileStore := ⟨Table.empty⟩

/-- Where a name leads. -/
inductive Target
  | directory
  | file (place : List String) (content : ByteArray)
  /-- Nothing stands there, but a file could. -/
  | vacant (place : List String)
  /-- Nothing stands there, and the name asks for a directory. -/
  | vacantDirectory

/-- The most bytes that one part of a name may have. -/
def longestPart : Nat := 255

/-- The least number of bytes that is too many for a name. -/
def tooLong : Nat := 4096

/-- Follows parts from a place. -/
def follow (s : FileStore) (place : List String) : List String → Except FileFault Target
  | [] => .ok .directory
  | part :: rest =>
    if part = "" ∨ part = "." then s.follow place rest
    else if part = ".." then s.follow place.dropLast rest
    else if part.utf8ByteSize > longestPart then .error .refused
    else
      match s.entries.get? (place ++ [part]) with
      | some .directory => s.follow (place ++ [part]) rest
      | some (.file content) =>
        if rest.isEmpty then .ok (.file (place ++ [part]) content) else .error .notDirectory
      | none =>
        if rest.isEmpty then .ok (.vacant (place ++ [part]))
        else if rest.all (· = "") then .ok .vacantDirectory
        else .error .notFound

/-- The parts of a name. -/
def partsOf (name : String) : List String := (FilePath.parts name.toList).map String.ofList

/-- Where a name leads, seen from a directory. -/
def locate (s : FileStore) (directory name : String) : Except FileFault Target :=
  if !FileText.isEncodable name then .error .notEncodable
  else if name.toList.contains '\x00' then .error .nullInName
  else if name = "" then .error .notFound
  else if name.utf8ByteSize ≥ tooLong then .error .refused
  else s.follow [] (partsOf (FilePath.join directory name))

/-- The content of a file. -/
def read (s : FileStore) (directory name : String) : Content :=
  match s.locate directory name with
  | .error fault => .error fault
  | .ok .directory => .error .isDirectory
  | .ok (.file _ content) => .ok content
  | .ok (.vacant _) | .ok .vacantDirectory => .error .notFound

/-- The store with the content of a file replaced, or with the file made. -/
def write (s : FileStore) (directory name : String) (content : ByteArray) :
    Except FileFault FileStore :=
  match s.locate directory name with
  | .error fault => .error fault
  | .ok .directory | .ok .vacantDirectory => .error .isDirectory
  | .ok (.file place _) | .ok (.vacant place) => .ok ⟨s.entries.insert place (.file content)⟩

/-- The store with a directory at the end of parts, and those on the way to it. -/
def makeDirectories (s : FileStore) (place : List String) : List String → FileStore
  | [] => s
  | part :: rest =>
    if part = "" ∨ part = "." then s.makeDirectories place rest
    else
      let place := place ++ [part]
      let s := if (s.entries.get? place).isSome then s else ⟨s.entries.insert place .directory⟩
      s.makeDirectories place rest

/-- The store with a directory of a name from the root. -/
def makeDirectory (s : FileStore) (name : String) : FileStore :=
  s.makeDirectories [] (partsOf name)

/-- Access to a store that is a state. -/
def access (directory : String) : FileAccess (StateM FileStore) where
  directory := directory
  read name := do return (← get).read directory name
  write name content := do
    match (← get).write directory name content with
    | .ok s =>
      set s
      return .ok ()
    | .error fault => return .error fault

end FileStore

end ChainLint
