import ChainLint.Datum.Literal
import ChainLint.Diagnosis
import ChainLint.Warning
/-!
# Diagnoses as JSON

The text is plain ASCII, indented by two blanks a level, fields in the order
given. An empty list or mapping stands on one line.
-/

namespace ChainLint.Json

/-- Four hexadecimal digits after a backslash and a `u`. -/
def unitEscape (n : Nat) : List Char := '\\' :: 'u' :: Text.hexList 4 n

/-- How a character stands in a text. -/
def escapeChar (c : Char) : List Char :=
  let n := Text.Surrogate.code c
  if c = '\x22' then ['\\', '\x22']
  else if c = '\\' then ['\\', '\\']
  else if c = '\n' then ['\\', 'n']
  else if c = '\r' then ['\\', 'r']
  else if c = '\t' then ['\\', 't']
  else if n = 8 then ['\\', 'b']
  else if n = 12 then ['\\', 'f']
  else if 32 ≤ n ∧ n < 127 then [c]
  else if n < 0x10000 then unitEscape n
  else
    let m := n - 0x10000
    unitEscape (0xd800 + m / 0x400) ++ unitEscape (0xdc00 + m % 0x400)

/-- A text in quotes. -/
def string (s : String) : String :=
  String.ofList ('\x22' :: s.toList.flatMap escapeChar ++ ['\x22'])

/-- A number with a point. -/
def number : Binary64 → String
  | .nan => "NaN"
  | .infinity s => if s then "-Infinity" else "Infinity"
  | x => x.text

/-- A new line, indented by a depth. -/
def newLine (depth : Nat) : String := String.ofList ('\n' :: List.replicate (2 * depth) ' ')

/-- Items on lines of their own between brackets. -/
def block (depth : Nat) (opening closing : String) (items : List String) : String :=
  if items.isEmpty then opening ++ closing
  else
    opening ++ newLine (depth + 1) ++ ("," ++ newLine (depth + 1)).intercalate items ++
      newLine depth ++ closing

/-- The text of a key. -/
def key : Datum → String
  | .null => string "null"
  | .bool b => string (if b then "true" else "false")
  | .float x => string (number x)
  | d => string d.display

mutual

/-- The text of a value at a depth. -/
def render (depth : Nat) : Datum → String
  | .null => "null"
  | .bool b => if b then "true" else "false"
  | .int n => toString n
  | .float x => number x
  | .list items | .tuple items => block depth "[" "]" (renderAll (depth + 1) items)
  | .map entries =>
    block depth Datum.openBrace Datum.closeBrace (renderEntries (depth + 1) entries)
  | d => string d.display

/-- The texts of items. -/
def renderAll (depth : Nat) : List Datum → List String
  | [] => []
  | d :: r => render depth d :: renderAll depth r

/-- The texts of entries. -/
def renderEntries (depth : Nat) : List (Datum × Datum) → List String
  | [] => []
  | (k, v) :: r => (key k ++ ": " ++ render depth v) :: renderEntries depth r

end

end ChainLint.Json

namespace ChainLint

/-- A record as a mapping. -/
def Record.datum (r : Record) : Datum := .map (r.map fun e => (.text e.1, e.2))

/-- The fields of a diagnosis, with the tool and its version last. -/
def Diagnosis.record (d : Diagnosis) : Record :=
  [("rule", .text d.rule), ("category", .text d.category), ("severity", .text d.severity),
   ("summary", .text d.summary), ("help", .text d.help), ("location", Record.datum d.location),
   ("unit", (d.unit.map Datum.text).getD .null), ("internal", .bool d.internal),
   ("extras", Record.datum d.extras), ("tool", .text toolName), ("version", .text toolVersion)]

/-- Diagnoses as a JSON text. -/
def Report.json (ds : List Diagnosis) : String :=
  Json.render 0 (.list (ds.map fun d => Record.datum d.record))

end ChainLint
