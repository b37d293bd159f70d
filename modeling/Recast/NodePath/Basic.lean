import Recast.Text.Letter
import Recast.Text.Basic

/-!
# Node paths

A node path leads from the document or from a node to nodes below it. Every step moves along an
axis, keeps the nodes that pass a test, and filters them by predicates.
-/

namespace Recast

/-- How a step moves. -/
inductive NodePath.Axis where
  | child
  /-- To the children of the node and of every element below it. -/
  | descendant
  | self
deriving DecidableEq, Repr

/-- Which nodes a step keeps. -/
inductive NodePath.Test where
  | name (name : String)
  | anyElement
  | attr (name : String)
  | anyAttribute
  | text
deriving DecidableEq, Repr

/-- What else a node has to satisfy. -/
inductive NodePath.Predicate where
  /-- Its place among those kept so far, the first one being 1. -/
  | position (n : Nat)
  | attr (name value : String)
  /-- A child element with that text, blanks around it dropped. -/
  | child (name value : String)
deriving DecidableEq, Repr

structure NodePath.Step where
  axis : NodePath.Axis
  test : NodePath.Test
  predicates : List NodePath.Predicate
deriving DecidableEq, Repr

/-- A node path, and the text it was read from. -/
structure NodePath where
  isAbsolute : Bool
  steps : List NodePath.Step
  source : String
deriving DecidableEq, Repr

namespace NodePath

/-- The characters of a name. -/
def isNameChar (c : Char) : Bool :=
  Text.isAlphanumeric c || c == '_' || c == '-' || c == '.' || c == ':'

def isName (s : List Char) : Bool := !s.isEmpty && s.all isNameChar

/-- A name without its prefix. -/
def localName (name : String) : String := String.ofList (Text.afterLast ':' name.toList)

end NodePath

end Recast
