/-!
# Places in a YAML text

A cursor is the rest of a text with the count of characters before it, its line
and its column. The null character, which no YAML text holds, stands for the
end of the text.
-/

namespace ChainLint.Yaml

/-- Whether a character ends a line. -/
def isBreak (c : Char) : Bool :=
  c = '\n' || c = '\r' || c = '\x85' || c = '\u2028' || c = '\u2029'

/-- Stands for the end of the text. -/
def endMark : Char := '\x00'

/-- The byte-order mark. -/
def byteOrderMark : Char := '\ufeff'

/-- Whether a line ends here. -/
def endsLine (c : Char) : Bool := c = endMark || isBreak c

/-- Whether a word ends here: at a space or the end of a line. -/
def endsWord (c : Char) : Bool := c = ' ' || endsLine c

/-- Whether blank space begins here; a tab counts. -/
def isSpaced (c : Char) : Bool := c = '\t' || endsWord c

/-- Whether a character may stand in names of anchors, directives and tag handles. -/
def isNameChar (c : Char) : Bool := c.isAlphanum || c = '-' || c = '_'

/-- A place in a text. -/
structure Cursor where
  rest : List Char
  index : Nat
  line : Nat
  column : Nat

namespace Cursor

/-- The beginning of a text. -/
def start (text : List Char) : Cursor := ⟨text, 0, 0, 0⟩

/-- The character here. -/
def peek (c : Cursor) : Char := c.rest.headD endMark

/-- The character so many places on. -/
def peekAt (c : Cursor) (n : Nat) : Char := (c.rest.drop n).headD endMark

/-- The place after the character here. A byte-order mark takes no column. -/
def next (c : Cursor) : Cursor :=
  match c.rest with
  | [] => c
  | ch :: r =>
    if isBreak ch then ⟨r, c.index + 1, c.line + 1, 0⟩
    else ⟨r, c.index + 1, c.line, if ch = byteOrderMark then c.column else c.column + 1⟩

/-- The place so many characters on. -/
def advance : Nat → Cursor → Cursor
  | 0, c => c
  | n + 1, c => advance n c.next

/-- The characters of a kind from here on, and the place after them. -/
def takeWhile (p : Char → Bool) (c : Cursor) : List Char × Cursor :=
  let run := c.rest.takeWhile p
  (run, advance run.length c)

/-- The place after the characters of a kind. -/
def dropWhile (p : Char → Bool) (c : Cursor) : Cursor := (c.takeWhile p).2

/-- More steps than any walk over the rest takes. -/
def bound (c : Cursor) : Nat := c.rest.length + 1

/-- The line break here, with most kinds read as a line feed, and the place after it. -/
def lineBreak? (c : Cursor) : Option (Char × Cursor) :=
  match c.rest with
  | '\r' :: '\n' :: _ => some ('\n', c.next.next)
  | ch :: _ =>
    if ch = '\u2028' ∨ ch = '\u2029' then some (ch, c.next)
    else if isBreak ch then some ('\n', c.next)
    else none
  | [] => none

/-- The place after spaces. -/
def skipSpaces (c : Cursor) : Cursor := c.dropWhile (· = ' ')

/-- The place after a comment, if there is one. -/
def skipComment (c : Cursor) : Cursor :=
  if c.peek = '#' then c.dropWhile fun ch => !isBreak ch else c

/-- Whether three marks of a kind stand here as a word. -/
def hasMarks (c : Cursor) (mark : Char) : Bool :=
  c.rest.take 3 = [mark, mark, mark] && isSpaced (c.peekAt 3)

/-- Whether a mark between documents stands here. -/
def atSeparator (c : Cursor) : Bool := c.hasMarks '-' || c.hasMarks '.'

/-- The place after spaces, comments and line breaks, and whether there were line breaks. -/
def skipToToken : Nat → Bool → Cursor → Cursor × Bool
  | 0, broken, c => (c, broken)
  | fuel + 1, broken, c =>
    let c := c.skipSpaces.skipComment
    match c.lineBreak? with
    | some (_, c) => skipToToken fuel true c
    | none => (c, broken)

end Cursor

end ChainLint.Yaml
