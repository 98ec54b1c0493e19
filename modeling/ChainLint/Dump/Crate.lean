import ChainLint.Dump.Node
/-!
# Reading crates

Only the structure of a dump is checked. Whether numbers refer to anything is
found out during analysis, so a broken unit leaves its siblings alone.
-/

namespace ChainLint.Dump

/-- What follows the last slash of a path. -/
def baseName (path : String) : String :=
  String.ofList (path.toList.reverse.takeWhile (· ≠ '/')).reverse

/-- A file name without its extension: the last point and what follows it, where some character
before that point is no point. -/
def stem (name : String) : String :=
  match name.toList.reverse.dropWhile (· ≠ '.') with
  | _ :: front => if front.all (· = '.') then name else String.ofList front.reverse
  | [] => name

/-- Reads one entry of the type table. -/
def typeEntry (origin : String) (id : Int) (d : Datum) : Except LoadFault TypeEntry := do
  let entries ← mapping s!"type {id}" (some d)
  match Datum.field? "kind" entries with
  | none => throw (.malformed (.typeWithoutKind origin id))
  | some kind =>
    let inner ← wholeField? "inner" "inner" entries
    pure ⟨id, kind.display, textField? "name" entries, inner, flag "mutable" entries⟩

/-- Reads the implementations of a trait method: pairs of a self type and a declaration. -/
def implEntry (e : Datum × Datum) : Except LoadFault (Int × Int) := do
  let ty ← whole "impl self type" e.1
  let target ← whole "impl def" e.2
  pure (ty, target)

/-- A fault of format as a fault of loading. -/
def liftFault {α : Type} : Except DumpFault α → Except LoadFault α
  | .ok a => .ok a
  | .error fault => .error (.malformed fault)

/-- Reads one entry of the declaration table. -/
def declEntry (origin : String) (id : Int) (d : Datum) : Except LoadFault Declaration := do
  let entries ← mapping s!"def {id}" (some d)
  match Datum.field? "path" entries with
  | none => throw (.malformed (.defWithoutPath origin id))
  | some rawPath =>
    let rawImpls ← mapping "impls" (Datum.field? "impls" entries)
    let impls ← rawImpls.mapM implEntry
    let path ← liftFault (splitPath rawPath)
    let target ← wholeField? "target" "target" entries
    pure {
      id, path
      kind := ((Datum.field? "kind" entries).map Datum.display).getD "fn"
      target
      hasDefault := flag "has_default" entries
      impls := Table.ofList impls }

/-- Reads a table whose keys are numbers, entry by entry. -/
def numbered {α : Type} (what : String) (read : Int → Datum → Except LoadFault α)
    (entries : List (Datum × Datum)) : Except LoadFault (Table Int α) := do
  let pairs ← entries.mapM fun e => do
    let id ← whole what e.1
    return (id, ← read id e.2)
  pure (Table.ofList pairs)

/-- The text of a field that counts as true, or else a default. -/
def textOr (entries : List (Datum × Datum)) (key default : String) : String :=
  match Datum.field? key entries with
  | some d => if d.isTruthy then d.display else default
  | none => default

/-- Reads the unit of a number, counted from one. -/
def codeUnit (origin : String) (number : Nat) (d : Datum) : Reading CodeUnit :=
  match d.core with
  | .map entries =>
    match Datum.field? "body" entries with
    | some rawBody => do
      let file := textOr entries "file" origin
      let body ← node file rawBody
      pure ⟨textOr entries "name" s!"unit{number}", file, body⟩
    | none => refuse (.unitWithoutBody origin number)
  | _ => refuse (.unitWithoutBody origin number)

/-- Reads units in turn; `done` have been read before. -/
def codeUnits (origin : String) (done : Nat) : List Datum → Reading (List CodeUnit)
  | [] => pure []
  | d :: r => do
    let u ← codeUnit origin (done + 1) d
    return u :: (← codeUnits origin (done + 1) r)

/-- The units of a document; a field that counts as false lists none. -/
def rawUnits (origin : String) (d : Option Datum) : Except LoadFault (List Datum) :=
  match d with
  | none => .ok []
  | some d =>
    if d.isTruthy then
      match d.core with
      | .list ds => .ok ds
      | _ => .error (.malformed (.unitsNotList origin))
    else .ok []

/-- The name of documents that come from no file. -/
def memoryOrigin : String := "<memory>"

/-- Reads a crate from a document. -/
def crate (origin : String) (doc : Datum) : Except LoadFault Crate :=
  match doc.core with
  | .map entries => do
    let name := textOr entries "crate" (stem (baseName origin))
    let rawTypes ← mapping "types" (Datum.field? "types" entries)
    let types ← numbered "type id" (typeEntry origin) rawTypes
    let rawDecls ← mapping "defs" (Datum.field? "defs" entries)
    let declarations ← numbered "def id" (declEntry origin) rawDecls
    let raws ← rawUnits origin (Datum.field? "units" entries)
    let (units, filed) ← (codeUnits origin 0 raws).run Filed.empty
    pure ⟨name, units, ⟨types, filed.nodeTypes⟩, declarations, filed.denotations⟩
  | _ => .error (.malformed (.notDocument origin))

end ChainLint.Dump
