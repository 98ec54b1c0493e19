import ChainLint.Tree.Resolve
/-!
# The path table

The table says which declarations are well known, and gives each a tag. An
identity is registered once; a frozen table takes no more. A copy starts
unfrozen.
-/

namespace ChainLint

/-- Why a registration was refused. -/
inductive RegistryFault
  | frozen
  | emptyPath
  | knownPath (path : SymbolPath) (tag : String)
  | knownRule (name : String)
deriving DecidableEq, Repr

/-- The refusal in words. -/
def RegistryFault.message : RegistryFault → String
  | .frozen => "canonical path table is frozen"
  | .emptyPath => "cannot register an empty path"
  | .knownPath path tag => "'" ++ path.text ++ "' is already registered as '" ++ tag ++ "'"
  | .knownRule name => "rule '" ++ name ++ "' is already registered"

/-- Tags of well-known declarations, in the order of registration. -/
structure PathTable where
  entries : Table SymbolPath String
  isFrozen : Bool

namespace PathTable

/-- The unfrozen table without entries. -/
def empty : PathTable := ⟨Table.empty, false⟩

/-- The tag of an identity. -/
def lookup (t : PathTable) (path : SymbolPath) : Option String := t.entries.get? path

/-- Registers an identity under a tag. -/
def register (t : PathTable) (path : SymbolPath) (tag : String) :
    Except RegistryFault PathTable :=
  if t.isFrozen then .error .frozen
  else if path.segments.isEmpty then .error .emptyPath
  else
    match t.lookup path with
    | some old => .error (.knownPath path old)
    | none => .ok { t with entries := t.entries.insert path tag }

/-- The table, closed to registration. -/
def freeze (t : PathTable) : PathTable := { t with isFrozen := true }

/-- An unfrozen table with the same entries. -/
def copy (t : PathTable) : PathTable := { t with isFrozen := false }

/-- Registers pairs in order, up to the first that is refused. -/
def registerAll (t : PathTable) : List (SymbolPath × String) → Except RegistryFault PathTable
  | [] => .ok t
  | (path, tag) :: r => do (← t.register path tag).registerAll r

/-- The tag of functions that fill memory with zeros. -/
def zeroFillTag : String := "zero_fill"

/-- The tag of functions that leave memory as it is. -/
def uninitTag : String := "uninit"

/-- The declarations that are always known. -/
def standardEntries : List (SymbolPath × String) :=
  [(⟨["core", "mem", "zeroed"]⟩, zeroFillTag),
   (⟨["core", "intrinsics", "init"]⟩, zeroFillTag),
   (⟨["core", "mem", "uninitialized"]⟩, uninitTag),
   (⟨["core", "intrinsics", "uninit"]⟩, uninitTag)]

/-- The frozen table of the declarations that are always known. -/
def standard : PathTable := ⟨⟨standardEntries⟩, true⟩

/-- The standard table with further entries, frozen. -/
def extended (extra : List (SymbolPath × String)) : Except RegistryFault PathTable := do
  return (← standard.copy.registerAll extra).freeze

end PathTable

end ChainLint
