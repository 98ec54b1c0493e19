import ChainLint.Text.Hex
/-!
# What can go wrong in a guard expression

A text that is no expression is told apart from one with characters that no
expression can have. Of the faults of an expression the first group are the
limits of the language, each with its own words. The second group are
operations on values they do not fit; of those a report names only the class.
-/

namespace ChainLint.Guard

/-- Why a text is no guard expression. -/
inductive ReadFault
  | malformed
  /-- The text holds the null character. -/
  | nullCharacter
  /-- The text holds lone surrogates: the first run of them, by position and length. -/
  | surrogates (position length code : Nat)
deriving DecidableEq, Repr

/-- What is wrong with the text of an expression, in words. -/
def ReadFault.message (text : String) : ReadFault → String
  | .malformed => "invalid expression '" ++ text ++ "': <SyntaxError>"
  | .nullCharacter => "source code string cannot contain null bytes"
  | .surrogates position 1 code =>
    "'utf-8' codec can't encode character '\\u" ++ Text.hex 4 code ++ s!"' in position {position}" ++
      ": surrogates not allowed"
  | .surrogates position length _ =>
    s!"'utf-8' codec can't encode characters in position {position}-{position + length - 1}" ++
      ": surrogates not allowed"

/-- Why a guard expression has no value. -/
inductive Fault
  /-- The text of the expression, blanks around it dropped, is none. -/
  | unread (text : String) (fault : ReadFault)
  | unknownName (name : String)
  | privateAttribute
  | method (name : String)
  | unsafeCall
  | keywords
  | unsupportedTerm (kind : String)
  | unsupportedUnary
  /-- An operation on values of kinds it is not made for. -/
  | misfit
  | noAttribute
  | noKey
  | outOfRange
  /-- A number that is no byte was looked for among bytes. -/
  | noByte
deriving DecidableEq, Repr

namespace Fault

/-- Whether a guard that fails like this counts as a guard that does not hold. -/
def isCaught : Fault → Bool
  | .noByte | .unread _ .nullCharacter | .unread _ (.surrogates ..) => false
  | _ => true

/-- The class of a fault of the second group, or of a text with characters that no expression has. -/
def className? : Fault → Option String
  | .unread _ .nullCharacter => some "ValueError"
  | .unread _ (.surrogates ..) => some "UnicodeEncodeError"
  | .misfit => some "TypeError"
  | .noAttribute => some "AttributeError"
  | .noKey => some "KeyError"
  | .outOfRange => some "IndexError"
  | .noByte => some "ValueError"
  | _ => none

/-- The fault in words: its own, or its class in angle brackets. -/
def message : Fault → String
  | .unread text fault => fault.message text
  | .unknownName name => "unknown identifier '" ++ name ++ "'"
  | .privateAttribute => "access to private attributes is not allowed"
  | .method name => "method '" ++ name ++ "' cannot be used in a guard"
  | .unsafeCall => "call to unsafe function is not allowed"
  | .keywords => "keyword arguments are not supported"
  | .unsupportedTerm kind => "unsupported expression node: " ++ kind
  | .unsupportedUnary => "unsupported unary operator"
  | fault => "<" ++ (fault.className?).getD "" ++ ">"

end Fault

end ChainLint.Guard
