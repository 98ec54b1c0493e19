import ChainLint.Datum.Basic
import ChainLint.Number.Shortest
import ChainLint.Text.Quoted
/-!
# The text of a document value

`literal` shows a value as messages do: texts in quotes, lists in square
brackets, a tuple of one with a comma, mappings and sets in braces. Inside a
container that is being shown, the container itself is shown as three dots.
`display` is the same, but a text stands for itself and a date is written
plainly.
-/

namespace ChainLint.Datum

/-- The brace that opens a mapping. -/
def openBrace : String := "\x7b"

/-- The brace that closes a mapping. -/
def closeBrace : String := "\x7d"

/-- Stands for a container inside itself. -/
def dots : Datum → String
  | .map _ => openBrace ++ "..." ++ closeBrace
  | _ => "[...]"

mutual

/-- The literal of a value inside `depth` containers that are being shown. -/
def literalAt (depth : Nat) : Datum → String
  | .null => "None"
  | .bool b => if b then "True" else "False"
  | .int n => toString n
  | .float x => x.text
  | .text s => Text.quoted s
  | .bytes b => Text.quotedBytes b
  | .date d => d.literal
  | .moment m => m.literal
  | .list items => "[" ++ ", ".intercalate (literalsAt (depth + 1) items) ++ "]"
  | .tuple [d] => "(" ++ literalAt (depth + 1) d ++ ",)"
  | .tuple items => "(" ++ ", ".intercalate (literalsAt (depth + 1) items) ++ ")"
  | .set [] => "set()"
  | .set items => openBrace ++ ", ".intercalate (literalsAt (depth + 1) items) ++ closeBrace
  | .map entries =>
    openBrace ++ ", ".intercalate (entryLiteralsAt (depth + 1) entries) ++ closeBrace
  | .again up c => if up ≤ depth then dots c else literalAt depth c

/-- The literals of items. -/
def literalsAt (depth : Nat) : List Datum → List String
  | [] => []
  | d :: r => literalAt depth d :: literalsAt depth r

/-- The literals of entries, key and value around a colon. -/
def entryLiteralsAt (depth : Nat) : List (Datum × Datum) → List String
  | [] => []
  | (k, v) :: r => (literalAt depth k ++ ": " ++ literalAt depth v) :: entryLiteralsAt depth r

end

/-- A value as messages show it. -/
def literal (d : Datum) : String := literalAt 0 d

/-- A value as text: a text is itself, a date is written plainly, anything else is its literal. -/
def display : Datum → String
  | .text s => s
  | .date d => d.text
  | .moment m => m.text
  | .again up c => literal (.again up c)
  | d => literal d

/-- The texts of a list without its nulls, or of a single value. -/
def textList (d : Datum) : List String :=
  match d.core with
  | .null => []
  | .list items => (items.filter fun d => !d.isNull).map Datum.display
  | _ => [d.display]

end ChainLint.Datum
