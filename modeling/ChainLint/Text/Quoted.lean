import ChainLint.Text.Hex
import ChainLint.Text.Printable
import ChainLint.Text.Surrogate
/-!
# Quoted texts

Messages show a text between quotes. Single quotes are used unless the text
holds a single quote and no double quote. The quote in use and the backslash
are escaped, and so is every character that does not print.
-/

namespace ChainLint.Text

/-- The single quote. -/
def singleQuote : Char := '\x27'

/-- The double quote. -/
def doubleQuote : Char := '\x22'

/-- The quote that surrounds characters: the double one exactly when only the single one occurs. -/
def quoteFor (cs : List Char) : Char :=
  if cs.contains singleQuote && !cs.contains doubleQuote then doubleQuote else singleQuote

/-- The escape of a code that does not print, as short as its size allows. -/
def escapeCode (n : Nat) : List Char :=
  if n < 0x100 then '\\' :: 'x' :: hexList 2 n
  else if n < 0x10000 then '\\' :: 'u' :: hexList 4 n
  else '\\' :: 'U' :: hexList 8 n

/-- How a character appears between the given quotes. -/
def quoteChar (quote c : Char) : List Char :=
  if c = quote ∨ c = '\\' then ['\\', c]
  else if c = '\n' then ['\\', 'n']
  else if c = '\r' then ['\\', 'r']
  else if c = '\t' then ['\\', 't']
  else if isPrintable c then [c]
  else escapeCode (Surrogate.code c)

/-- A text between quotes. -/
def quoted (s : String) : String :=
  let cs := s.toList
  let quote := quoteFor cs
  String.ofList (quote :: cs.flatMap (quoteChar quote) ++ [quote])

/-- How a byte appears between the given quotes: only ASCII prints. -/
def quoteByte (quote : Char) (b : UInt8) : List Char :=
  let c := Char.ofNat b.toNat
  if c.toNat < 128 then quoteChar quote c else escapeCode b.toNat

/-- Bytes between quotes, marked by a leading `b`. -/
def quotedBytes (bytes : List UInt8) : String :=
  let quote := quoteFor (bytes.map fun b => Char.ofNat b.toNat)
  String.ofList ('b' :: quote :: bytes.flatMap (quoteByte quote) ++ [quote])

end ChainLint.Text
