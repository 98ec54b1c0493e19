import ChainLint.Guard.Value
/-!
# Attributes

Nodes, units, spans, identities and shapes show their fields; numbers show
their parts. Everything else that has a name on a value is a method, which
guards must not use.
-/

namespace ChainLint.Guard

/-- The words of a line. -/
def words (line : String) : List String := (line.splitOn " ").filter (· ≠ "")

/-- The methods of whole numbers and truth values. -/
def intMethods : List String :=
  words "as_integer_ratio bit_count bit_length conjugate from_bytes to_bytes"

/-- The methods of floating-point numbers. -/
def floatMethods : List String := words "as_integer_ratio conjugate fromhex hex is_integer"

/-- The methods that texts and bytes share. -/
def sharedMethods : List String :=
  words "capitalize center count endswith expandtabs find index isalnum isalpha isascii isdigit" ++
  words "islower isspace istitle isupper join ljust lower lstrip maketrans partition" ++
  words "removeprefix removesuffix replace rfind rindex rjust rpartition rsplit rstrip split" ++
  words "splitlines startswith strip swapcase title translate upper zfill"

/-- The methods of texts. -/
def textMethods : List String :=
  sharedMethods ++
    words "casefold encode format format_map isdecimal isidentifier isnumeric isprintable"

/-- The methods of bytes. -/
def bytesMethods : List String := sharedMethods ++ words "decode fromhex hex"

/-- The methods of lists. -/
def listMethods : List String :=
  words "append clear copy count extend index insert pop remove reverse sort"

/-- The methods of tuples. -/
def tupleMethods : List String := words "count index"

/-- The methods of dictionaries. -/
def dictMethods : List String :=
  words "clear copy fromkeys get items keys pop popitem setdefault update values"

/-- A text that may be absent. -/
def optText (place : Place) : Option String → Value
  | some s => .text s place
  | none => .none

/-- A field of a node. -/
def nodeField? (e : Expr) (name : String) : Option Value :=
  let place : Place := .slot [name, toString e.id]
  match name with
  | "hir_id" => some (.int e.id place)
  | "kind" => some (.text e.kind place)
  | "source_range" => some ((e.span.map fun s => Value.span s e.id).getD .none)
  | "callee" => some ((e.callee.map Value.node).getD .none)
  | "args" => some (.list (e.args.map .node) place)
  | "children" => some (.list (e.children.map .node) place)
  | "path" => some (optText place e.path)
  | "type_args" =>
    some (.list (e.typeArgs.mapIdx fun i s => .text s (place.part (toString i))) place)
  | "text" => some (optText place e.text)
  | _ => none

/-- A field of a span. -/
def spanField? (s : Span) (owner : Int) (name : String) : Option Value :=
  let place : Place := .slot [name, "span", toString owner]
  match name with
  | "file" => some (.text s.file place)
  | "line_start" => some (.int s.lineStart place)
  | "col_start" => some (.int s.colStart place)
  | "line_end" => some (.int s.lineEnd place)
  | "col_end" => some (.int s.colEnd place)
  | _ => none

/-- A field of a unit. -/
def unitField? (u : CodeUnit) (name : String) : Option Value :=
  match name with
  | "name" => some (.text u.name (.slot [name, "unit"]))
  | "file" => some (.text u.file (.slot [name, "unit"]))
  | "body" => some (.node u.body)
  | _ => none

/-- The segments of an identity. -/
def symbolField? (p : SymbolPath) (name : String) : Option Value :=
  let place : Place := .slot ["path", "identity"]
  match name with
  | "path" => some (.tuple (p.segments.mapIdx fun i s => .text s (place.part (toString i))) place)
  | _ => none

/-- The name that a shape goes by among all shapes. -/
def shapeTitle : Shape → String
  | .reference => "REFERENCE"
  | .rawPointer => "RAW_POINTER"
  | .value => "VALUE"
  | .other => "OTHER"

/-- The word for a shape, as a value. -/
def shapeText (s : Shape) : Value := .text s.name (.slot [s.name, "shape"])

/-- The name and the word of a shape, and from each shape every other one. -/
def shapeField? (s : Shape) (name : String) : Option Value :=
  match name with
  | "name" => some (.text (shapeTitle s) (.slot ["name", s.name, "shape"]))
  | "value" => some (shapeText s)
  | _ => (Shape.all.find? fun t => shapeTitle t = name).map Value.shape

/-- The parts of a whole number; its own part is the number itself, kept where it is kept. -/
def intField? (n : Int) (place : Place) (name : String) : Option Value :=
  match name with
  | "real" | "numerator" => some (.int n place)
  | "imag" => some (.int 0 .nowhere)
  | "denominator" => some (.int 1 .nowhere)
  | _ => none

/-- The parts of a number that may have an imaginary one, the real one kept in the given place. -/
def complexField? (re im : Binary64) (place : Place) (name : String) : Option Value :=
  match name with
  | "real" => some (.float re place)
  | "imag" => some (.float im .nowhere)
  | _ => none

/-- The field of a value and the methods of its kind. -/
def Value.fieldOrMethods (v : Value) (name : String) : Option Value × List String :=
  match v with
  | .none | .ellipsis => (Option.none, [])
  | .bool b => (intField? (if b then 1 else 0) .nowhere name, intMethods)
  | .int n place => (intField? n place name, intMethods)
  | .float x place => (complexField? x Binary64.zero place name, floatMethods)
  | .complex re im _ => (complexField? re im .nowhere name, ["conjugate"])
  | .text .. => (Option.none, textMethods)
  | .bytes .. => (Option.none, bytesMethods)
  | .list .. => (Option.none, listMethods)
  | .tuple .. => (Option.none, tupleMethods)
  | .dict .. => (Option.none, dictMethods)
  | .node e => (nodeField? e name, ["iter_children"])
  | .span s owner => (spanField? s owner name, [])
  | .unit u => (unitField? u name, [])
  | .symbol p => (symbolField? p name, [])
  | .shape s => (shapeField? s name, [])

/-- The attribute of a value. -/
def Value.attribute (v : Value) (name : String) : Except Fault Value :=
  match v.fieldOrMethods name with
  | (.some field, _) => .ok field
  | (.none, methods) =>
    if methods.contains name then .error (.method name) else .error .noAttribute

end ChainLint.Guard
