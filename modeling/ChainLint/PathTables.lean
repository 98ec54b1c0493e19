import ChainLint.History
/-!
# Path tables in use

A table in use has its entries in a dictionary. Registering changes that
dictionary, so two tables that shared one would see each other's entries. A
copy gets a new dictionary with the same entries. The standard table is made
when it is first asked for, and is the same one from then on; it is extended by
filling a copy of it.
-/

namespace ChainLint

/-- A table in use: the place of its dictionary, and whether it is closed to registration. -/
structure PathTable.Handle where
  dictionary : Nat
  isFrozen : Bool

/-- The dictionaries and tables in use, and the place of the standard table once it was made. -/
structure PathTables where
  dictionaries : List (Table SymbolPath String)
  handles : List PathTable.Handle
  standard : Option Nat

namespace PathTables

/-- No table in use. -/
def empty : PathTables := ⟨[], [], none⟩

/-- The table at a place. -/
def get? (s : PathTables) (place : Nat) : Option PathTable := do
  let handle ← s.handles[place]?
  let entries ← s.dictionaries[handle.dictionary]?
  return ⟨entries, handle.isFrozen⟩

/-- Puts a table into use, with a new dictionary. -/
def add (t : PathTable) (s : PathTables) : PathTables :=
  { s with
    dictionaries := s.dictionaries ++ [t.entries]
    handles := s.handles ++ [⟨s.dictionaries.length, t.isFrozen⟩] }

/-- Makes the table at a place another one; its dictionary stays where it is. -/
def put (place : Nat) (t : PathTable) (s : PathTables) : PathTables :=
  match s.handles[place]? with
  | none => s
  | some handle =>
    { s with
      dictionaries := s.dictionaries.set handle.dictionary t.entries
      handles := s.handles.set place { handle with isFrozen := t.isFrozen } }

/-! ## What can be done with tables in use -/

/-- The table at a place. -/
def table (place : Nat) : Update PathTables PathTable := Update.found (·.get? place)

/-- Makes a table; its place is new. -/
def make (t : PathTable) : Update PathTables Nat := do
  let s ← get
  set (s.add t)
  return s.handles.length

/-- Registers an identity under a tag. -/
def register (place : Nat) (path : SymbolPath) (tag : String) : Update PathTables SymbolPath := do
  match (← table place).register path tag with
  | .ok t => do
    modify (put place t)
    return path
  | .error fault => throw (.refused fault)

/-- Registers pairs in order, up to the first that is refused. -/
def registerAll (place : Nat) : List (SymbolPath × String) → Update PathTables Unit
  | [] => return ()
  | (path, tag) :: rest => do
    let _ ← register place path tag
    registerAll place rest

/-- Closes a table to registration. -/
def freeze (place : Nat) : Update PathTables Unit := do
  let t ← table place
  modify (put place t.freeze)

/-- Makes an unfrozen copy. -/
def copy (place : Nat) : Update PathTables Nat := do make (← table place).copy

/-- The tag of an identity. -/
def lookup (place : Nat) (path : Option SymbolPath) : Update PathTables (Option String) := do
  return path.bind (← table place).lookup

/-- The standard table, which is made when it is first asked for. -/
def shared : Update PathTables Nat := do
  match (← get).standard with
  | some place => return place
  | none => do
    let place ← make PathTable.empty
    registerAll place PathTable.standardEntries
    freeze place
    modify fun s => { s with standard := some place }
    return place

/-- A frozen copy of the standard table with further entries. -/
def extend (extra : List (SymbolPath × String)) : Update PathTables Nat := do
  let place ← copy (← shared)
  registerAll place extra
  freeze place
  return place

/-! ## Requests -/

/-- What may be asked of the table at a place. -/
inductive Request
  | register (place : Nat) (path : SymbolPath) (tag : String)
  | freeze (place : Nat)
  | copy (place : Nat)
  | lookup (place : Nat) (path : Option SymbolPath)
deriving DecidableEq, Repr

/-- The place of the table that a request is about. -/
def Request.place : Request → Nat
  | .register place _ _ | .freeze place | .copy place | .lookup place _ => place

/-- Whether a request may change the table at a place. -/
def Request.changes (r : Request) (place : Nat) : Bool :=
  match r with
  | .register target _ _ | .freeze target => target = place
  | _ => false

/-- What is told if a request is not refused. -/
inductive Reply
  | registered (path : SymbolPath)
  | frozen
  | copied (place : Nat)
  | found (tag : Option String)
deriving DecidableEq, Repr

/-- Serves a request. -/
def answer : Request → Update PathTables Reply
  | .register place path tag => do return .registered (← register place path tag)
  | .freeze place => do
    freeze place
    return .frozen
  | .copy place => do return .copied (← copy place)
  | .lookup place path => do return .found (← lookup place path)

end PathTables

end ChainLint
