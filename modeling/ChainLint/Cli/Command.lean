import ChainLint.Cli.Word
import ChainLint.Number.Numeral
/-!
# Commands

A command line asks for an analysis of dumps or for the list of rules. Options
and arguments are taken in order, and what is taken first decides: a call for
help counts unless something before it was wrong.
-/

namespace ChainLint.Cli

/-- How diagnoses are written. -/
inductive Format
  | text
  | json
deriving DecidableEq, Repr

/-- What the options of a command say. -/
structure Options where
  config : Option String := none
  ruleFiles : List String := []
  format : Format := .text
  out : Option String := none
  /-- How many units may be analysed at a time; none if the option was left without a value. -/
  jobs : Option Int := some 1
  dumps : List String := []
deriving DecidableEq, Repr

/-- What is asked for. -/
inductive Command
  | check (options : Options)
  | rules (options : Options)
deriving DecidableEq, Repr

/-- Why a command line asks for no command. -/
inductive NoCommand
  | help
  | version
  | misused
deriving DecidableEq, Repr

/-- The options in front of a command. -/
def mainNames : Names := [("-h", .help), ("--help", .help), ("--version", .version)]

/-- The options of both commands. -/
def sharedNames : Names :=
  [("-h", .help), ("--help", .help), ("--config", .config), ("--rules", .rules)]

/-- The options of an analysis. -/
def checkNames : Names :=
  sharedNames ++ [("--format", .format), ("--out", .out), ("--jobs", .jobs)]

/-! ## Taking options -/

/-- A switch with the values it was given. -/
abbrev Given := Switch × List String

/-- The switches of a word of several short options, from the value of the first on. -/
def cluster (names : Names) (name : String) (switch : Switch) :
    List Char → Except NoCommand (List Given)
  | [] => .ok [(switch, [])]
  | c :: r =>
    if name.startsWith "--" ∨ switch.arity ≠ .none then .error .misused
    else
      let next := String.ofList ['-', c]
      match names.lookup next with
      | none => .error .misused
      | some switch' => do return (switch, []) :: (← cluster names next switch' r)

/-- The value in the same word; two dashes are no value. -/
def ownValue (value : String) : List String := if value = "--" then [] else [value]

/-- The switches that an option gives, and the words that are left. -/
def claim (names : Names) (name : String) (switch : Switch) (value : Option String)
    (rest : List Word) : Except NoCommand (List Given × List Word) :=
  match value, switch.arity with
  | some v, .none =>
    if v = "" then .error .misused
    else do return (← cluster names name switch v.toList, rest)
  | some v, _ => .ok ([(switch, ownValue v)], rest)
  | none, .none => .ok ([(switch, [])], rest)
  | none, .one =>
    match rest with
    | w :: r => if w.isArgument then .ok ([(switch, [w.text])], r) else .error .misused
    | [] => .error .misused
  | none, .many =>
    match rest.takeWhile Word.isArgument with
    | [] => .error .misused
    | values => .ok ([(switch, values.map Word.text)], rest.dropWhile Word.isArgument)

/-- Takes a switch into account. -/
def Options.take (o : Options) : Given → Except NoCommand Options
  | (.help, _) => .error .help
  | (.version, _) => .error .version
  | (.config, values) => .ok { o with config := values.head? }
  | (.rules, values) => .ok { o with ruleFiles := values }
  | (.out, values) => .ok { o with out := values.head? }
  | (.format, []) | (.format, "text" :: _) => .ok { o with format := .text }
  | (.format, "json" :: _) => .ok { o with format := .json }
  | (.format, _) => .error .misused
  | (.jobs, []) => .ok { o with jobs := none }
  | (.jobs, value :: _) =>
    match Numeral.int? 10 value with
    | some n => .ok { o with jobs := some n }
    | none => .error .misused

/-- Takes switches into account, in order. -/
def Options.takeAll (o : Options) : List Given → Except NoCommand Options
  | [] => .ok o
  | g :: r => do (← o.take g).takeAll r

/-! ## Taking words -/

/-- The texts of words without the first two dashes among them. -/
def withoutDivider (ws : List Word) : List String := (ws.map Word.text).erase "--"

/-- What was taken so far: options, whether arguments are still asked for, and whether there were
words that nothing asks for. -/
structure Taken where
  options : Options
  wanting : Bool
  surplus : Bool := false

namespace Taken

/-- Takes a run of words that are no options. -/
def arguments (t : Taken) (ws : List Word) : Taken :=
  if t.wanting && ws.any Word.isArgument then
    { t with options := { t.options with dumps := withoutDivider ws }, wanting := false }
  else { t with surplus := t.surplus || !ws.isEmpty }

/-- Takes words in order; `fuel` bounds their number. -/
def words (names : Names) (fuel : Nat) (t : Taken) (ws : List Word) : Except NoCommand Taken :=
  match fuel, ws with
  | 0, _ | _, [] => .ok t
  | fuel + 1, w :: r =>
    match w.role with
    | .unknown => words names fuel { t with surplus := true } r
    | .switch name switch value => do
      let (given, rest) ← claim names name switch value r
      words names fuel { t with options := ← t.options.takeAll given } rest
    | .argument | .divider =>
      let run := (w :: r).takeWhile fun w => !w.isOption
      words names fuel (t.arguments run) ((w :: r).dropWhile fun w => !w.isOption)

end Taken

/-- What the words after a command's name say; `wanting` if it needs arguments. -/
def takeOptions (names : Names) (wanting : Bool) (line : List String) : Except NoCommand Taken :=
  match wordsOf names line with
  | none => .error .misused
  | some ws => do
    let t ← Taken.words names ws.length { options := {}, wanting } ws
    if t.wanting then .error .misused else pure t

/-- The command of a name and the words after it; none of the words may be left. -/
def Command.ofName (name : String) (surplus : Bool) (line : List String) :
    Except NoCommand Command :=
  match name with
  | "check" => do
    let t ← takeOptions checkNames true line
    if surplus || t.surplus then .error .misused else pure (.check t.options)
  | "rules" => do
    let t ← takeOptions sharedNames false line
    if surplus || t.surplus then .error .misused else pure (.rules t.options)
  | _ => .error .misused

/-- The command that words ask for; `surplus` if there were words that nothing asks for. -/
def Command.ofWords (surplus : Bool) : List Word → Except NoCommand Command
  | [] => .error .misused
  | w :: r =>
    match w.role with
    | .unknown => ofWords true r
    | .switch name switch value => do
      let (given, _) ← claim mainNames name switch value r
      let _ ← Options.takeAll {} given
      ofWords surplus r
    | .divider => .error .misused
    | .argument => ofName w.text surplus (r.map Word.text)

/-- The command of a command line. -/
def Command.ofLine (line : List String) : Except NoCommand Command :=
  match wordsOf mainNames line with
  | some ws => ofWords false ws
  | none => .error .misused

end ChainLint.Cli
