import ChainLint.Datum.Whole
import ChainLint.Dump.Fault
import ChainLint.Tree.Crate
/-!
# The fields of a dump

Each function reads one kind of field, and says exactly which values it takes.
-/

namespace ChainLint.Dump

/-- Splits at double colons, from the left and without overlap. -/
def splitColons : List Char → List (List Char)
  | [] => [[]]
  | [c] => [[c]]
  | c :: d :: r =>
    if c = ':' ∧ d = ':' then [] :: splitColons r
    else
      match splitColons (d :: r) with
      | [] => [[c]]
      | s :: rest => (c :: s) :: rest

/-- The segments that a value lists, before any check: a text is split at double colons, a list
gives the text of each item. Blanks around segments are dropped. -/
def rawSegments? : Datum → Option (List String)
  | .text s => some ((splitColons s.toList).map fun seg => Text.trim (String.ofList seg))
  | .list items | .tuple items => some (items.map fun d => Text.trim d.display)
  | .again _ (.list items) => some (items.map fun d => Text.trim d.display)
  | _ => none

/-- A path: at least one segment, none empty. -/
def splitPath (d : Datum) : Except DumpFault (List String) :=
  match rawSegments? d with
  | none => .error (.expectedPath d)
  | some segments =>
    if segments.isEmpty || segments.contains "" then .error (.invalidPath d) else .ok segments

/-- A whole number; truth values are not taken for numbers here. -/
def whole (what : String) (d : Datum) : Except LoadFault Int :=
  match d with
  | .bool _ => .error (.malformed (.notWhole what d))
  | _ =>
    match d.toWhole with
    | .ok n => .ok n
    | .error .infinite => .error (.misused .infinite)
    | .error _ => .error (.malformed (.notWhole what d))

/-- The entries of a mapping; a field that is absent or null counts as empty. -/
def mapping (what : String) (d : Option Datum) : Except LoadFault (List (Datum × Datum)) :=
  match d with
  | none | some .null => .ok []
  | some d =>
    match d.core with
    | .map entries => .ok entries
    | _ => .error (.malformed (.notMapping what))

/-- The items of a field; a field that is absent or counts as false has none. -/
def items (d : Option Datum) : Except LoadFault (List Datum) :=
  (Datum.fieldItems d).mapError .misused

/-- The number under a key, if the field is there and not null. -/
def wholeField? (what key : String) (entries : List (Datum × Datum)) :
    Except LoadFault (Option Int) :=
  match Datum.present? key entries with
  | none => .ok none
  | some d => some <$> whole what d

/-- The text under a key, if the field is there and not null. -/
def textField? (key : String) (entries : List (Datum × Datum)) : Option String :=
  (Datum.present? key entries).map Datum.display

/-- Whether the value under a key counts as true. -/
def flag (key : String) (entries : List (Datum × Datum)) : Bool :=
  ((Datum.field? key entries).map Datum.isTruthy).getD false

/-- A span: four numbers, or a mapping in which the start defaults to zero and the end to the
start. -/
def span (file : String) (d : Datum) : Except LoadFault (Option Span) :=
  match d.core with
  | .null => .ok none
  | .list ds | .tuple ds =>
    match ds with
    | [a, b, c, e] => do
      let ls ← whole "span" a
      let cs ← whole "span" b
      let le ← whole "span" c
      let ce ← whole "span" e
      pure (some ⟨file, ls, cs, le, ce⟩)
    | _ => .error (.malformed (.spanLength d))
  | .map entries => do
    let field := fun key => Datum.field? key entries
    let start := fun key => (field key).getD (.int 0)
    let stop := fun key key' => (field key).getD (start key')
    let name := ((field "file").map Datum.display).getD file
    let ls ← whole "span.line_start" (start "line_start")
    let cs ← whole "span.col_start" (start "col_start")
    let le ← whole "span.line_end" (stop "line_end" "line_start")
    let ce ← whole "span.col_end" (stop "col_end" "col_start")
    pure (some ⟨name, ls, cs, le, ce⟩)
  | _ => .error (.malformed (.unsupportedSpan d))

/-- What a path denotes: nothing known, a local, a declaration, or a mapping that says more. -/
def denotation (d : Datum) : Except LoadFault Denotation :=
  match d.core with
  | .null => .ok {}
  | .int n => .ok { decl := some n }
  | .map entries => do
    let decl ← wholeField? "res.def" "def" entries
    let selfType ← wholeField? "res.self_ty" "self_ty" entries
    let args ← items (Datum.field? "generic_args" entries)
    let genericArgs ← args.mapM (whole "res.generic_args")
    pure ⟨decl, flag "local" entries, selfType, genericArgs⟩
  | .text s => if s = "local" then .ok { isLocal := true } else .error (.malformed (.unsupportedRes d))
  | _ => .error (.malformed (.unsupportedRes d))

end ChainLint.Dump
