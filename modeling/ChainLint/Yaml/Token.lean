import ChainLint.Yaml.Scalar
/-!
# The tokens of YAML

Marks, scalars, and the small words before a node: anchors, aliases, tags and
directives. A tag is a suffix after a handle, or stands alone between angle
brackets.
-/

namespace ChainLint.Yaml

/-- A line of directions before a document. -/
inductive Directive
  | version (major : Nat)
  | tag (handle leading : String)
  | other
deriving DecidableEq, Repr

/-- A token. -/
inductive Token
  | directive (d : Directive)
  | documentStart
  | documentEnd
  | streamEnd
  | blockSequenceStart
  | blockMappingStart
  | blockEnd
  | flowSequenceStart
  | flowSequenceEnd
  | flowMappingStart
  | flowMappingEnd
  | flowEntry
  | blockEntry
  | key
  | value
  | aliasOf (name : String)
  | anchor (name : String)
  | tag (handle : Option String) (suffix : String)
  | scalar (text : String) (isPlain : Bool)
deriving DecidableEq, Repr, Inhabited

/-! ## Names -/

/-- A name of at least one character. -/
def name (c : Cursor) : Except Fault (String × Cursor) :=
  let (cs, c) := c.takeWhile isNameChar
  if cs.isEmpty then .error .malformed else .ok (String.ofList cs, c)

/-- Whether the name of an anchor or alias may end here. -/
def mayEndAnchor (c : Char) : Bool := isSpaced c || "?:,]\x7d%@\x60".toList.contains c

/-- The name of an anchor or alias after its mark. -/
def anchorName (c : Cursor) : Except Fault (String × Cursor) := do
  let (s, c) ← name c
  if mayEndAnchor c.peek then return (s, c) else throw .malformed

/-! ## Tags -/

/-- Whether a character may stand in the suffix of a tag. -/
def isUriChar (c : Char) : Bool :=
  c.isAlphanum || "-;/?:@&=+$,_.!~*\x27()[]%".toList.contains c

/-- Escaped bytes of a tag in a row. -/
def uriBytes : Nat → Cursor → Except Fault (List UInt8 × Cursor)
  | 0, c => .ok ([], c)
  | fuel + 1, c =>
    if c.peek = '%' then
      match c.rest with
      | _ :: a :: b :: _ => do
        match Text.hexNumber? [a, b] with
        | some n =>
          let (more, c) ← uriBytes fuel (c.advance 3)
          return (UInt8.ofNat n :: more, c)
        | none => throw .malformed
      | _ => .error .malformed
    else .ok ([], c)

/-- The characters of the suffix of a tag; escaped bytes are UTF-8. -/
def uriText : Nat → List Char → Cursor → Except Fault (List Char × Cursor)
  | 0, acc, c => .ok (acc.reverse, c)
  | fuel + 1, acc, c =>
    if c.peek = '%' then do
      let (bytes, c) ← uriBytes c.bound c
      match String.fromUTF8? ⟨bytes.toArray⟩ with
      | some s => uriText fuel (s.toList.reverse ++ acc) c
      | none => throw .malformed
    else if isUriChar c.peek then uriText fuel (c.peek :: acc) c.next
    else .ok (acc.reverse, c)

/-- A suffix of at least one character. -/
def uri (c : Cursor) : Except Fault (String × Cursor) := do
  let (cs, c) ← uriText c.bound [] c
  if cs.isEmpty then throw .malformed else return (String.ofList cs, c)

/-- The handle of a tag: an exclamation mark, alone before a space or with a name and a second one. -/
def tagHandle (c : Cursor) : Except Fault (String × Cursor) :=
  if c.peek ≠ '!' then .error .malformed
  else if c.peekAt 1 = ' ' then .ok ("!", c.next)
  else
    let (cs, c) := c.next.takeWhile isNameChar
    if c.peek = '!' then .ok (String.ofList ('!' :: cs ++ ['!']), c.next) else .error .malformed

/-- Whether the word that starts a tag holds an exclamation mark after its first character. -/
def hasHandle (c : Cursor) : Bool :=
  (c.next.rest.takeWhile fun ch => !endsWord ch).contains '!'

/-- A tag. -/
def tagToken (c : Cursor) : Except Fault (Token × Cursor) := do
  let (t, c) ←
    if c.peekAt 1 = '<' then do
      let (suffix, c) ← uri (c.advance 2)
      if c.peek = '>' then pure (Token.tag none suffix, c.next) else throw .malformed
    else if isSpaced (c.peekAt 1) then pure (Token.tag none "!", c.next)
    else do
      let (handle, c) ← if hasHandle c then tagHandle c else pure ("!", c.next)
      let (suffix, c) ← uri c
      pure (Token.tag (some handle) suffix, c)
  if endsWord c.peek then return (t, c) else throw .malformed

/-! ## Directives -/

/-- A number of at least one digit. -/
def number (c : Cursor) : Except Fault (Nat × Cursor) :=
  let (ds, c) := c.takeWhile Char.isDigit
  if ds.isEmpty then .error .malformed
  else .ok (ds.foldl (fun n d => n * 10 + (d.toNat - 48)) 0, c)

/-- The major number of a version. -/
def versionDirective (c : Cursor) : Except Fault (Directive × Cursor) := do
  let (major, c) ← number c.skipSpaces
  if c.peek ≠ '.' then throw .malformed
  let (_, c) ← number c.next
  if endsWord c.peek then return (.version major, c) else throw .malformed

/-- A handle of tags and what it stands for. -/
def tagDirective (c : Cursor) : Except Fault (Directive × Cursor) := do
  let (handle, c) ← tagHandle c.skipSpaces
  if c.peek ≠ ' ' then throw .malformed
  let (leading, c) ← uri c.skipSpaces
  if endsWord c.peek then return (.tag handle leading, c) else throw .malformed

/-- A directive with the end of its line. Directives of other names are passed over. -/
def directiveToken (c : Cursor) : Except Fault (Token × Cursor) := do
  let (word, c) ← name c.next
  if !endsWord c.peek then throw .malformed
  let (d, c) ←
    if word = "YAML" then versionDirective c
    else if word = "TAG" then tagDirective c
    else pure (Directive.other, c.dropWhile fun ch => !isBreak ch)
  let c ← restOfLine c
  return (.directive d, c)

end ChainLint.Yaml
