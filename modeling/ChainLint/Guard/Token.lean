import ChainLint.Guard.Escape
import ChainLint.Guard.NumberLexeme
import ChainLint.Text.Identifier
import ChainLint.Text.NormalForm
/-!
# The tokens of guard expressions

Blanks and comments separate tokens. Lines matter only outside brackets: there
the end of a line is a token, and a line that holds tokens must not be
indented. A backslash at the end of a line joins it to the next one. Brackets
have to match.
-/

namespace ChainLint.Guard

/-- A token. -/
inductive Token
  | name (id : String)
  | keyword (word : String)
  | number (value : Literal)
  | text (s : String)
  | bytes (b : List UInt8)
  /-- A text with fields in it: whether escapes are off, and what stands between the quotes. -/
  | formatted (raw : Bool) (body : List Char)
  | op (symbol : String)
  | newline
deriving BEq, Repr, Inhabited

/-! ## Words -/

/-- The words that are no names. -/
def keywords : List String :=
  ["False", "None", "True", "and", "as", "assert", "async", "await", "break", "class", "continue",
   "def", "del", "elif", "else", "except", "finally", "for", "from", "global", "if", "import", "in",
   "is", "lambda", "nonlocal", "not", "or", "pass", "raise", "return", "try", "while", "with",
   "yield"]

/-- The token of a word. -/
def wordToken (cs : List Char) : Option Token :=
  if cs.all fun c => c.toNat < 128 then
    let word := String.ofList cs
    some (if keywords.contains word then .keyword word else .name word)
  else if Text.isIdentifier cs then some (.name (String.ofList (Text.normalForm cs)))
  else none

/-! ## Texts -/

/-- The letters before a quote. -/
structure TextMark where
  isBytes : Bool := false
  isRaw : Bool := false
  isFormatted : Bool := false

/-- Whether a character is a quote. -/
def isQuote (c : Char) : Bool := c = '\x27' || c = '\x22'

/-- What a letter before a quote means. -/
def TextMark.ofLetter? (c : Char) : Option TextMark :=
  match c.toLower with
  | 'b' => some { isBytes := true }
  | 'r' => some { isRaw := true }
  | 'f' => some { isFormatted := true }
  | 'u' => some {}
  | _ => none

/-- What two letters before a quote mean: one of them says that escapes are off. -/
def TextMark.ofLetters? (c d : Char) : Option TextMark :=
  match c.toLower, d.toLower with
  | 'b', 'r' | 'r', 'b' => some { isBytes := true, isRaw := true }
  | 'f', 'r' | 'r', 'f' => some { isFormatted := true, isRaw := true }
  | _, _ => none

/-- The mark of a text that begins here, its quote and what follows the quote. -/
def textStart? : List Char → Option (TextMark × Char × List Char)
  | c :: r =>
    if isQuote c then some ({}, c, r)
    else
      match r with
      | d :: t =>
        if isQuote d then (TextMark.ofLetter? c).map fun m => (m, d, t)
        else
          match t with
          | q :: u =>
            if isQuote q then (TextMark.ofLetters? c d).map fun m => (m, q, u) else none
          | [] => none
      | [] => none
  | [] => none

/-- What stands before the closing quote, and what follows it. -/
def untilQuote (quote : Char) : List Char → Option (List Char × List Char)
  | [] => none
  | '\\' :: c :: r => (untilQuote quote r).map fun p => ('\\' :: c :: p.1, p.2)
  | c :: r =>
    if c = quote then some ([], r)
    else if c = '\n' ∨ c = '\\' then none
    else (untilQuote quote r).map fun p => (c :: p.1, p.2)

/-- What stands before three closing quotes, and what follows them. -/
def untilQuotes (quote : Char) : List Char → Option (List Char × List Char)
  | [] => none
  | '\\' :: c :: r => (untilQuotes quote r).map fun p => ('\\' :: c :: p.1, p.2)
  | c :: r =>
    if c = quote ∧ r.take 2 = [quote, quote] then some ([], r.drop 2)
    else if c = '\\' then none
    else (untilQuotes quote r).map fun p => (c :: p.1, p.2)

/-- What a text holds between its quotes, from the character after the opening one. -/
def textBody (quote : Char) (cs : List Char) : Option (List Char × List Char) :=
  if cs.take 2 = [quote, quote] then untilQuotes quote (cs.drop 2)
  else untilQuote quote cs

/-- The token of a text. -/
def textToken (m : TextMark) (body : List Char) : Option Token :=
  if m.isFormatted then some (.formatted m.isRaw body)
  else if m.isBytes then
    if body.all fun c => c.toNat < 128 then
      if m.isRaw then some (.bytes (body.map fun c => UInt8.ofNat c.toNat))
      else (unescapeBytes body).map .bytes
    else none
  else if m.isRaw then some (.text (String.ofList body))
  else (unescapeText body).map .text

/-! ## Operators -/

/-- The operators of three, two and one characters. -/
def operators : List String :=
  ["**=", "//=", "<<=", ">>=", "...",
   "!=", "%=", "&=", "**", "*=", "+=", "-=", "->", "//", "/=", ":=", "<<", "<=", "<>", "==", ">=",
   ">>", "@=", "^=", "|=",
   "(", ")", "[", "]", "\x7b", "\x7d", ":", ",", ";", "+", "-", "*", "/", "|", "&", "<", ">", "=",
   ".", "%", "^", "~", "@"]

/-- The longest operator at the head of some characters. -/
def operator? (cs : List Char) : Option (Token × List Char) :=
  (operators.find? fun o => o.toList.isPrefixOf cs).map fun o => (.op o, cs.drop o.length)

/-! ## All tokens -/

/-- The token at the head of some characters. -/
def Token.next? (cs : List Char) : Option (Token × List Char) :=
  match textStart? cs with
  | some (m, quote, r) => do
    let (body, r) ← textBody quote r
    return (← textToken m body, r)
  | none =>
    match cs with
    | [] => none
    | c :: r =>
      if c.isDigit || (c = '.' && r.head?.any Char.isDigit) then
        (numberLexeme cs).map fun p => (.number p.1, p.2)
      else if isWordStart c then
        (wordToken (cs.takeWhile isWordChar)).map fun t => (t, cs.dropWhile isWordChar)
      else operator? cs

/-- Skips blanks and joined lines. A backslash anywhere else is a mistake. -/
def skipGap : List Char → Option (List Char)
  | '\\' :: '\n' :: c :: r => skipGap (c :: r)
  | '\\' :: _ => none
  | c :: r => if c = ' ' ∨ c = '\t' ∨ c = '\x0c' then skipGap r else some (c :: r)
  | [] => some []

/-- Skips empty lines and comment lines, up to the first token of a line, which must not be
indented. `col` is the column, `kept` the column before a joined line. -/
def startLine (col kept : Nat) (inComment : Bool) : List Char → Option (List Char)
  | [] => some []
  | '\\' :: '\n' :: c :: r =>
    if inComment then startLine 0 0 false (c :: r)
    else startLine col (if kept = 0 then col else kept) false (c :: r)
  | c :: r =>
    if c = '\n' then startLine 0 0 false r
    else if inComment then startLine col kept true r
    else if c = ' ' then startLine (col + 1) kept false r
    else if c = '\t' then startLine ((col / 8 + 1) * 8) kept false r
    else if c = '\x0c' then startLine 0 kept false r
    else if c = '#' then startLine col kept true r
    else if c = '\\' then none
    else if (if kept = 0 then col else kept) = 0 then some (c :: r)
    else none

/-- How deep brackets may be nested. -/
def maxNesting : Nat := 200

/-- The bracket that closes an opening one. -/
def closing (bracket : String) : String :=
  match bracket with
  | "(" => ")"
  | "[" => "]"
  | _ => "\x7d"

/-- The brackets still open after a token, innermost first. -/
def Token.nest (opened : List String) : Token → Option (List String)
  | .op s =>
    if s = "(" ∨ s = "[" ∨ s = "\x7b" then
      if opened.length < maxNesting then some (s :: opened) else none
    else if s = ")" ∨ s = "]" ∨ s = "\x7d" then
      match opened with
      | b :: rest => if closing b = s then some rest else none
      | [] => none
    else some opened
  | _ => some opened

/-- The tokens of some characters inside brackets, as many as `fuel` at most. -/
def Token.scanFrom : Nat → List String → List Char → Option (List Token)
  | 0, _, _ => none
  | fuel + 1, opened, cs => do
    let cs ← skipGap cs
    match cs with
    | [] => if opened.isEmpty then some [] else none
    | '#' :: r => scanFrom fuel opened (r.dropWhile (· ≠ '\n'))
    | '\n' :: r =>
      if opened.isEmpty then do
        let r ← startLine 0 0 false r
        return .newline :: (← scanFrom fuel opened r)
      else scanFrom fuel opened r
    | _ =>
      let (t, r) ← Token.next? cs
      let opened ← t.nest opened
      return t :: (← scanFrom fuel opened r)

/-- The tokens of some characters. -/
def Token.scan (cs : List Char) : Option (List Token) := do
  let cs' ← startLine 0 0 false cs
  Token.scanFrom (2 * cs.length + 2) [] cs'

end ChainLint.Guard
