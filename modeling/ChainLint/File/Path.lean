/-!
# File names

A file name is a text with its parts between slashes. Names are taken as they
are spelled: nothing here looks at what files there are.
-/

namespace ChainLint.FilePath

/-- Splits at every slash. -/
def parts : List Char → List (List Char)
  | [] => [[]]
  | '/' :: r => [] :: parts r
  | c :: r =>
    match parts r with
    | p :: ps => (c :: p) :: ps
    | [] => [[c]]

/-- Whether a name starts at the root. -/
def isAbsolute (name : String) : Bool := name.toList.head? = some '/'

/-- A name seen from a directory. -/
def join (directory name : String) : String :=
  if isAbsolute name then name
  else if directory = "" ∨ directory.toList.getLast? = some '/' then directory ++ name
  else directory ++ "/" ++ name

/-- The slashes that a normal name starts with: as many as it has if that is none, one or two,
and one if there are more. -/
def root : List Char → List Char
  | '/' :: '/' :: '/' :: _ => ['/']
  | '/' :: '/' :: _ => ['/', '/']
  | '/' :: _ => ['/']
  | _ => []

/-- Puts one part behind normal parts, last one first: nothing and a point vanish, two points
take the part before them away. -/
def push (rooted : Bool) (done : List (List Char)) (part : List Char) : List (List Char) :=
  if part = [] ∨ part = ['.'] then done
  else if part = ['.', '.'] then
    match done with
    | [] => if rooted then [] else [part]
    | last :: before => if last = ['.', '.'] then part :: done else before
  else part :: done

/-- The normal spelling of a name. -/
def normal (name : String) : String :=
  let cs := name.toList
  let slashes := root cs
  let done := (parts cs).foldl (push !slashes.isEmpty) []
  match slashes ++ ['/'].intercalate done.reverse with
  | [] => "."
  | cs => String.ofList cs

/-- The normal name from the root, seen from a directory. -/
def absolute (directory name : String) : String := normal (join directory name)

/-- Everything before the last part, without the slashes in between. -/
def parent (name : String) : String :=
  let head := name.toList.reverse.dropWhile (· ≠ '/')
  let bare := head.dropWhile (· = '/')
  String.ofList (if bare.isEmpty then head.reverse else bare.reverse)

end ChainLint.FilePath
