import ChainLint.Tree.Expr
import ChainLint.Tree.TypeTable
/-!
# Crates

A crate has units, each a body that is analysed on its own, and tables of
types, of declarations and of what paths denote.
-/

namespace ChainLint

/-- A declaration. An alias has a target; a trait method lists its implementations by self type. -/
structure Declaration where
  id : Int
  path : List String
  kind : String := "fn"
  target : Option Int := none
  hasDefault : Bool := false
  impls : Table Int Int := Table.empty

/-- What a path denotes where it is used. -/
structure Denotation where
  decl : Option Int := none
  isLocal : Bool := false
  selfType : Option Int := none
  genericArgs : List Int := []
deriving DecidableEq, Repr

/-- The smallest part of a program that is analysed on its own. -/
structure CodeUnit where
  name : String
  file : String
  body : Expr
deriving DecidableEq, Repr, Inhabited

/-- A typed program. -/
structure Crate where
  name : String
  units : List CodeUnit
  types : TypeTable
  declarations : Table Int Declaration
  denotations : Table Int Denotation

namespace Crate

/-- The first unit of a name. -/
def unit? (c : Crate) (name : String) : Option CodeUnit := c.units.find? fun u => u.name = name

/-- Every node with its unit, in the order in which analysis meets them. -/
def nodes (c : Crate) : List (CodeUnit × Expr) :=
  c.units.flatMap fun u => u.body.walk.map fun e => (u, e)

end Crate

end ChainLint
