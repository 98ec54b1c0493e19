import ChainLint.Text.Digit
/-!
# Words of a command line

A word is an option, an argument, or the two dashes after which every word is
an argument. An option may be shortened as long as one name only is meant, and
its value may stand in the same word. Words that look like options and are none
are arguments if they are negative numbers or hold a space.
-/

namespace ChainLint.Cli

/-- What an option is for. -/
inductive Switch
  | help
  | version
  | config
  | rules
  | format
  | out
  | jobs
deriving DecidableEq, Repr

/-- How many values an option takes. -/
inductive Arity
  | none
  | one
  /-- One or more. -/
  | many
deriving DecidableEq, Repr

/-- How many values a switch takes. -/
def Switch.arity : Switch → Arity
  | .help | .version => .none
  | .rules => .many
  | .config | .format | .out | .jobs => .one

/-- The names of options. -/
abbrev Names := List (String × Switch)

/-- What a word is. -/
inductive Role
  | argument
  /-- The two dashes. -/
  | divider
  /-- An option by its full name, with the value in the same word. -/
  | switch (name : String) (switch : Switch) (value : Option String)
  | unknown
deriving DecidableEq, Repr

/-- A word with its role. -/
structure Word where
  text : String
  role : Role
deriving DecidableEq, Repr

namespace Word

/-- Whether a word is an argument. -/
def isArgument (w : Word) : Bool := w.role = .argument

/-- Whether a word is an option, known or not. -/
def isOption (w : Word) : Bool :=
  match w.role with
  | .switch .. | .unknown => true
  | _ => false

end Word

/-- The parts of a word before and after its first equals sign. -/
def splitValue (s : String) : String × Option String :=
  let cs := s.toList
  let name := String.ofList (cs.takeWhile (· ≠ '='))
  match cs.dropWhile (· ≠ '=') with
  | _ :: value => (name, some (String.ofList value))
  | [] => (name, none)

/-- Whether a character is a decimal digit. -/
def isDigit (c : Char) : Bool := (Text.digitValue? c).isSome

/-- Whether characters are digits, or digits with one point in front of the last of them. A line
feed may follow. -/
def isDecimal (cs : List Char) : Bool :=
  let cs := if cs.getLast? = some '\n' then cs.dropLast else cs
  match cs.dropWhile isDigit with
  | [] => !cs.isEmpty
  | '.' :: r => !r.isEmpty && r.all isDigit
  | _ => false

/-- The roles that a shortened option may have. -/
def shortened (names : Names) (s : String) : List Role :=
  match s.toList with
  | '-' :: '-' :: _ =>
    let (start, value) := splitValue s
    (names.filter fun e => e.1.startsWith start).map fun e => .switch e.1 e.2 value
  | a :: b :: value =>
    (names.filter fun e => e.1 = String.ofList [a, b]).map fun e =>
      .switch e.1 e.2 (some (String.ofList value))
  | _ => []

/-- The role of a word with a dash in front that is no full name of an option. -/
def looseRole (names : Names) (s : String) : Option Role :=
  match shortened names s with
  | _ :: _ :: _ => none
  | [role] => some role
  | [] =>
    let cs := s.toList
    some (if isDecimal (cs.drop 1) ∨ ' ' ∈ cs then .argument else .unknown)

/-- The role of a word before the two dashes; none if it is short for several options. -/
def roleOf (names : Names) (s : String) : Option Role :=
  match s.toList with
  | '-' :: _ :: _ =>
    match names.lookup s with
    | some switch => some (.switch s switch none)
    | none =>
      match splitValue s with
      | (name, some value) =>
        match names.lookup name with
        | some switch => some (.switch name switch (some value))
        | none => looseRole names s
      | _ => looseRole names s
  | _ => some .argument

/-- The words of a command line with their roles; none if one is short for several options. -/
def wordsOf (names : Names) : List String → Option (List Word)
  | [] => some []
  | "--" :: r => some (⟨"--", .divider⟩ :: r.map fun s => ⟨s, .argument⟩)
  | s :: r => do
    let role ← roleOf names s
    return ⟨s, role⟩ :: (← wordsOf names r)

end ChainLint.Cli
