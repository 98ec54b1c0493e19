/-!
# Inconsistent crates

A crate may refer to types or declarations that its tables lack. The reference
is found out only when something follows it.
-/

namespace ChainLint

/-- How a crate contradicts itself. -/
inductive Malformed
  | missingType (type : Int)
  | missingNodeType (node type : Int)
  | missingDeclaration (decl : Int)
  | aliasCycle (path : List String)
  | aliasWithoutTarget (kind : String) (path : List String)
  /-- A fault that a caller found and words itself. -/
  | other (message : String)
deriving DecidableEq, Repr

/-- Segments joined by double colons. -/
def joinPath (segments : List String) : String := "::".intercalate segments

/-- The fault in words. -/
def Malformed.message : Malformed → String
  | .missingType ty => s!"type id {ty} is not in the type table"
  | .missingNodeType node ty =>
    s!"node {node} claims type id {ty}, which is not in the type table"
  | .missingDeclaration decl => s!"def id {decl} is not in the def table"
  | .aliasCycle path => "alias cycle through '" ++ joinPath path ++ "'"
  | .aliasWithoutTarget kind path => kind ++ " '" ++ joinPath path ++ "' has no target"
  | .other message => message

end ChainLint
