import ChainLint.Yaml.Token
/-!
# From text to tokens

Outside brackets and braces, indentation makes collections: a deeper column
opens one, a shallower column closes those that are deeper. Whether a word is a
key shows only at the colon after it. So the scanner notes where a key might
begin and puts the key's token there when the colon comes, which has to be on
the same line and within 1024 characters.
-/

namespace ChainLint.Yaml

/-- Where a key might begin. -/
structure KeyPlace where
  /-- How many tokens come before it. -/
  count : Nat
  /-- Whether a key has to begin there. -/
  isRequired : Bool
  index : Nat
  line : Nat
  column : Nat

/-- What the scanner has read and knows. -/
structure Scanner where
  cursor : Cursor
  /-- The tokens, last first, and their number. -/
  tokens : List Token := []
  count : Nat := 0
  /-- How many brackets and braces are open. -/
  flowLevel : Nat := 0
  /-- The column of the innermost collection, -1 outside all, and of those around it. -/
  indent : Int := -1
  outer : List Int := []
  mayStartKey : Bool := true
  /-- The place of a possible key by level of brackets. -/
  keys : List (Nat × KeyPlace) := []

namespace Scanner

/-- Adds a token. -/
def push (s : Scanner) (t : Token) : Scanner :=
  { s with tokens := t :: s.tokens, count := s.count + 1 }

/-- Puts a token after the first `n` ones. -/
def insertAt (s : Scanner) (n : Nat) (t : Token) : Scanner :=
  let later := s.count - n
  { s with tokens := s.tokens.take later ++ t :: s.tokens.drop later, count := s.count + 1 }

/-- Adds a token of some characters that begin here. -/
def pushMark (s : Scanner) (length : Nat) (t : Token) : Scanner :=
  { s.push t with cursor := s.cursor.advance length }

/-- Whether no brackets are open. -/
def inBlock (s : Scanner) : Bool := s.flowLevel = 0

/-! ## Possible keys -/

/-- Whether a possible key can no longer get its colon. -/
def isStale (c : Cursor) (k : KeyPlace) : Bool :=
  k.line ≠ c.line || c.index - k.index > 1024

/-- Forgets places of keys that are of no use any more; a required one is missed. -/
def dropStaleKeys (s : Scanner) : Except Fault Scanner :=
  if s.keys.any fun e => isStale s.cursor e.2 && e.2.isRequired then .error .malformed
  else .ok { s with keys := s.keys.filter fun e => !isStale s.cursor e.2 }

/-- The place of a possible key on this level. -/
def key? (s : Scanner) : Option KeyPlace := s.keys.lookup s.flowLevel

/-- Forgets the place of a key on this level. -/
def forgetKey (s : Scanner) : Scanner :=
  { s with keys := s.keys.filter fun e => e.1 ≠ s.flowLevel }

/-- Gives up the place of a key on this level; a required one is missed. -/
def dropKey (s : Scanner) : Except Fault Scanner :=
  if s.key?.any (·.isRequired) then .error .malformed else .ok s.forgetKey

/-- Notes that a key may begin here. -/
def noteKey (s : Scanner) : Except Fault Scanner :=
  if s.mayStartKey then do
    let s' ← s.dropKey
    let c := s.cursor
    let place : KeyPlace :=
      ⟨s.count, s.inBlock && s.indent = (c.column : Int), c.index, c.line, c.column⟩
    return { s' with keys := (s.flowLevel, place) :: s'.keys }
  else .ok s

/-! ## Indentation -/

/-- Closes collections deeper than a column. -/
def unwind (column : Int) : List Int → Scanner → Scanner
  | [], s => if s.inBlock && column < s.indent then { s.push .blockEnd with indent := -1 } else s
  | i :: rest, s =>
    if s.inBlock && column < s.indent then
      unwind column rest { s.push .blockEnd with indent := i, outer := rest }
    else s

/-- Closes collections deeper than a column, unless brackets are open. -/
def unwindTo (column : Int) (s : Scanner) : Scanner := unwind column s.outer s

/-- Whether a column is deeper than the innermost collection. -/
def isDeeper (s : Scanner) (column : Nat) : Bool := s.indent < column

/-- Makes a column that of the innermost collection. -/
def deepen (s : Scanner) (column : Nat) : Scanner :=
  { s with outer := s.indent :: s.outer, indent := column }

/-- Opens a collection here if the column is deeper. -/
def openHere (s : Scanner) (t : Token) : Scanner :=
  if s.isDeeper s.cursor.column then (s.deepen s.cursor.column).push t else s

/-! ## Marks -/

/-- The end of the text. -/
def streamEnd (s : Scanner) : Except Fault Scanner := do
  let s ← (s.unwindTo (-1)).dropKey
  return { s.push .streamEnd with mayStartKey := false, keys := [] }

/-- A directive. -/
def directive (s : Scanner) : Except Fault Scanner := do
  let s ← (s.unwindTo (-1)).dropKey
  let (t, c) ← directiveToken s.cursor
  return { s.push t with mayStartKey := false, cursor := c }

/-- A mark between documents. -/
def documentMark (t : Token) (s : Scanner) : Except Fault Scanner := do
  let s ← (s.unwindTo (-1)).dropKey
  return { s.pushMark 3 t with mayStartKey := false }

/-- An opening bracket or brace. -/
def flowStart (t : Token) (s : Scanner) : Except Fault Scanner := do
  let s ← s.noteKey
  return { s.pushMark 1 t with flowLevel := s.flowLevel + 1, mayStartKey := true }

/-- A closing bracket or brace; one without an opening partner is a mistake. -/
def flowEnd (t : Token) (s : Scanner) : Except Fault Scanner := do
  let s ← s.dropKey
  if s.flowLevel = 0 then throw .malformed
  return { s.pushMark 1 t with flowLevel := s.flowLevel - 1, mayStartKey := false }

/-- A comma. -/
def flowEntry (s : Scanner) : Except Fault Scanner := do
  let s ← s.dropKey
  return { s.pushMark 1 .flowEntry with mayStartKey := true }

/-- A dash before an item. -/
def blockEntry (s : Scanner) : Except Fault Scanner := do
  if s.inBlock && !s.mayStartKey then throw .malformed
  let s := if s.inBlock then s.openHere .blockSequenceStart else s
  let s ← s.dropKey
  return { s.pushMark 1 .blockEntry with mayStartKey := true }

/-- A question mark before a key. -/
def keyMark (s : Scanner) : Except Fault Scanner := do
  if s.inBlock && !s.mayStartKey then throw .malformed
  let s := if s.inBlock then s.openHere .blockMappingStart else s
  let s ← s.dropKey
  return { s.pushMark 1 .key with mayStartKey := s.inBlock }

/-- A colon before a value: the place noted for a key is where the key begins. -/
def valueMark (s : Scanner) : Except Fault Scanner := do
  match s.key? with
  | some k =>
    let s := s.forgetKey.insertAt k.count .key
    let s :=
      if s.inBlock && s.isDeeper k.column then
        (s.deepen k.column).insertAt k.count .blockMappingStart
      else s
    return { s.pushMark 1 .value with mayStartKey := false }
  | none =>
    if s.inBlock && !s.mayStartKey then throw .malformed
    let s := if s.inBlock then s.openHere .blockMappingStart else s
    return { s.pushMark 1 .value with mayStartKey := s.inBlock }

/-! ## Words -/

/-- A token that may be a key, read by a function. -/
def word (read : Cursor → Except Fault (Token × Cursor)) (s : Scanner) : Except Fault Scanner := do
  let s ← s.noteKey
  let (t, c) ← read s.cursor
  return { s.push t with mayStartKey := false, cursor := c }

/-- A quoted scalar. -/
def quoted (double : Bool) (c : Cursor) : Except Fault (Token × Cursor) := do
  let (cs, c) ← quotedText double c.bound [] c.next
  return (.scalar (String.ofList cs) false, c)

/-- An anchor. -/
def anchor (c : Cursor) : Except Fault (Token × Cursor) := do
  let (s, c) ← anchorName c.next
  return (.anchor s, c)

/-- An alias. -/
def aliasOf (c : Cursor) : Except Fault (Token × Cursor) := do
  let (s, c) ← anchorName c.next
  return (.aliasOf s, c)

/-- A block scalar. -/
def block (fold : Bool) (s : Scanner) : Except Fault Scanner := do
  let s ← s.dropKey
  let (cs, c) ← blockText fold s.indent s.cursor.next
  return { s.push (.scalar (String.ofList cs) false) with mayStartKey := true, cursor := c }

/-- A plain scalar. After a line break within or behind it a key may begin. -/
def plain (s : Scanner) : Except Fault Scanner := do
  let s ← s.noteKey
  let (cs, c, broken) := plainText (!s.inBlock) (s.indent + 1) s.cursor.bound false [] s.cursor
  return { s.push (.scalar (String.ofList cs) true) with mayStartKey := broken, cursor := c }

/-- Whether a plain scalar begins here. -/
def mayStartPlain (s : Scanner) : Bool :=
  let c := s.cursor.peek
  !(isSpaced c || "-?:,[]\x7b\x7d#&*!|>\x27\x22%@\x60".toList.contains c) ||
    (!isSpaced (s.cursor.peekAt 1) && (c = '-' || (s.inBlock && (c = '?' || c = ':'))))

/-! ## All tokens -/

/-- The token after spaces and comments. -/
def fetch (s : Scanner) : Except Fault Scanner :=
  let c := s.cursor
  let ch := c.peek
  let spaced := isSpaced (c.peekAt 1)
  if c.rest.isEmpty then s.streamEnd
  else if ch = '%' ∧ c.column = 0 then s.directive
  else if c.column = 0 ∧ c.hasMarks '-' then s.documentMark .documentStart
  else if c.column = 0 ∧ c.hasMarks '.' then s.documentMark .documentEnd
  else if ch = '[' then s.flowStart .flowSequenceStart
  else if ch = '\x7b' then s.flowStart .flowMappingStart
  else if ch = ']' then s.flowEnd .flowSequenceEnd
  else if ch = '\x7d' then s.flowEnd .flowMappingEnd
  else if ch = ',' then s.flowEntry
  else if ch = '-' ∧ spaced then s.blockEntry
  else if ch = '?' ∧ (!s.inBlock || spaced) then s.keyMark
  else if ch = ':' ∧ (!s.inBlock || spaced) then s.valueMark
  else if ch = '*' then s.word aliasOf
  else if ch = '&' then s.word anchor
  else if ch = '!' then s.word tagToken
  else if ch = '|' ∧ s.inBlock then s.block false
  else if ch = '>' ∧ s.inBlock then s.block true
  else if ch = '\x27' then s.word (quoted false)
  else if ch = '\x22' then s.word (quoted true)
  else if s.mayStartPlain then s.plain
  else .error .malformed

/-- Passes over spaces and comments and closes what the new column closes. -/
def skipSpace (s : Scanner) : Except Fault Scanner := do
  let start := s.cursor
  let start := if start.index = 0 ∧ start.peek = byteOrderMark then start.next else start
  let (c, broken) := start.skipToToken start.bound false
  let s ← { s with
    cursor := c, mayStartKey := s.mayStartKey || (broken && s.inBlock) }.dropStaleKeys
  return s.unwindTo c.column

end Scanner

/-- The tokens of a text, and the fault that ended them, if there was one. -/
structure TokenStream where
  tokens : List Token
  fault : Option Fault

namespace TokenStream

/-- Fetches tokens up to the end of the text or a fault. -/
def scanFrom : Nat → Scanner → TokenStream
  | 0, s => ⟨s.tokens.reverse, some .malformed⟩
  | fuel + 1, s =>
    match s.skipSpace with
    | .error fault => ⟨s.tokens.reverse, some fault⟩
    | .ok s =>
      match s.fetch with
      | .error fault => ⟨s.tokens.reverse, some fault⟩
      | .ok s' =>
        if s'.tokens.head? = some .streamEnd then ⟨s'.tokens.reverse, none⟩ else scanFrom fuel s'

/-- Whether a character may stand in a text at all. -/
def isPrintable (c : Char) : Bool :=
  let n := c.toNat
  n = 9 || n = 10 || n = 13 || (32 ≤ n && n ≤ 126) || n = 0x85 || (0xa0 ≤ n && n ≤ 0xd7ff) ||
    (0xe000 ≤ n && n ≤ 0xfffd) || 0x10000 ≤ n

/-- The tokens of a text. -/
def ofText (text : String) : TokenStream :=
  let cs := text.toList
  if cs.all isPrintable then scanFrom (2 * cs.length + 2) { cursor := .start cs }
  else ⟨[], some .malformed⟩

end TokenStream

end ChainLint.Yaml
