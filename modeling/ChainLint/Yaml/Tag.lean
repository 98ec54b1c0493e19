import ChainLint.Yaml.Time
/-!
# Tags

A tag says what a node stands for. A plain scalar without a tag is recognized
by its form: truth values, numbers, null, times, the merge key and the default
key; anything else is a text.
-/

namespace ChainLint.Yaml

/-- What a node stands for. -/
inductive Tag
  | null
  | bool
  | int
  | float
  | binary
  | time
  | ordered
  | pairs
  | set
  | text
  | list
  | map
  /-- The key that merges other mappings into its own. -/
  | merge
  /-- The key of the value that a mapping stands for where a scalar is needed. -/
  | default
  | other (uri : String)
deriving DecidableEq, Repr

namespace Tag

/-- The beginning of the standard tags. -/
def standardPrefix : String := "tag:yaml.org,2002:"

/-- The tag of a standard name. -/
def ofName? (name : String) : Option Tag :=
  match name with
  | "null" => some .null
  | "bool" => some .bool
  | "int" => some .int
  | "float" => some .float
  | "binary" => some .binary
  | "timestamp" => some .time
  | "omap" => some .ordered
  | "pairs" => some .pairs
  | "set" => some .set
  | "str" => some .text
  | "seq" => some .list
  | "map" => some .map
  | "merge" => some .merge
  | "value" => some .default
  | _ => none

/-- The tag that a URI names. -/
def ofUri (uri : String) : Tag :=
  let name := if uri.startsWith standardPrefix then
      ofName? (uri.drop standardPrefix.length).toString
    else none
  name.getD (.other uri)

/-! ## The form of plain scalars -/

/-- The words for truth values. -/
def truthWords : List String :=
  ["yes", "Yes", "YES", "no", "No", "NO", "true", "True", "TRUE", "false", "False", "FALSE", "on",
   "On", "ON", "off", "Off", "OFF"]

/-- The words for null. -/
def nullWords : List String := ["", "~", "null", "Null", "NULL"]

/-- The words for infinity. -/
def infinityWords : List String := [".inf", ".Inf", ".INF"]

/-- The words for what is no number. -/
def nanWords : List String := [".nan", ".NaN", ".NAN"]

/-- Whether a character is a digit or an underscore. -/
def isDigitOrLine (c : Char) : Bool := c.isDigit || c = '_'

/-- Drops a sign. -/
def dropSign : List Char → List Char
  | '-' :: r => r
  | '+' :: r => r
  | r => r

/-- What follows one group or more of a colon and a number below sixty; none if there is no group. -/
def afterSixties (some? : Bool) : List Char → Option (List Char)
  | ':' :: a :: b :: r =>
    if !a.isDigit then none
    else if b.isDigit then (if a ≤ '5' then afterSixties true r else none)
    else afterSixties true (b :: r)
  | [':', a] => if a.isDigit then some [] else none
  | r => if some? then some r else none

/-- Whether an exponent, which has to have a sign, or nothing stands here. -/
def isExponent : List Char → Bool
  | [] => true
  | e :: s :: r =>
    (e = 'e' || e = 'E') && (s = '-' || s = '+') && !r.isEmpty && r.all Char.isDigit
  | _ => false

/-- Whether a plain scalar has the form of a number with a point. -/
def isFloat (cs : List Char) : Bool :=
  let body := dropSign cs
  infinityWords.contains (String.ofList body) || nanWords.contains (String.ofList cs) ||
    match body with
    | c :: r =>
      if c.isDigit then
        match r.dropWhile isDigitOrLine with
        | '.' :: t => isExponent (t.dropWhile isDigitOrLine)
        | t =>
          match afterSixties false t with
          | some ('.' :: u) => u.all isDigitOrLine
          | _ => false
      else if c = '.' ∧ cs = body then
        match r with
        | d :: t => d.isDigit && isExponent (t.dropWhile isDigitOrLine)
        | [] => false
      else false
    | [] => false

/-- Whether there are characters and all are of a kind, underscores aside. -/
def allOf (p : Char → Bool) (cs : List Char) : Bool :=
  !cs.isEmpty && cs.all fun c => p c || c = '_'

/-- Whether a character is a hexadecimal digit. -/
def isHexDigit (c : Char) : Bool := c.isDigit || ('a' ≤ c && c ≤ 'f') || ('A' ≤ c && c ≤ 'F')

/-- Whether a plain scalar has the form of a whole number. -/
def isInt (cs : List Char) : Bool :=
  match dropSign cs with
  | ['0'] => true
  | '0' :: 'b' :: r => allOf (fun c => c = '0' || c = '1') r
  | '0' :: 'x' :: r => allOf isHexDigit r
  | '0' :: r => allOf (fun c => '0' ≤ c && c ≤ '7') r
  | c :: r =>
    c.isDigit &&
      match r.dropWhile isDigitOrLine with
      | [] => true
      | t => afterSixties false t == some []
  | [] => false

/-- The characters without a line feed at their end. -/
def dropLastBreak (cs : List Char) : List Char :=
  if cs.getLast? = some '\n' then cs.dropLast else cs

/-- The tag of a plain scalar without one. -/
def ofPlain (text : String) : Tag :=
  let cs := dropLastBreak text.toList
  let word := String.ofList cs
  if text = "\n" then .text
  else if truthWords.contains word then .bool
  else if isFloat cs then .float
  else if isInt cs then .int
  else if word = "<<" then .merge
  else if nullWords.contains word then .null
  else if (TimeText.ofList? cs).any TimeText.isPlain then .time
  else if word = "=" then .default
  else .text

end Tag

end ChainLint.Yaml
