import Recast.NodePath.Basic
import Recast.Markup.Node

/-!
# Selecting nodes

`select` lists what a node path finds, step by step. An absolute path starts at a parent of the
document element, a relative one at the node given.
-/

namespace Recast.NodePath

open Markup (Node)

mutual

/-- The node and every element below it, parents first. -/
def scopes (n : Node) : List Node :=
  n :: match n with
    | .element _ _ children => childScopes children
    | _ => []
termination_by structural n

def childScopes : List Node → List Node
  | [] => []
  | n :: ns => (if n.isElement then scopes n else []) ++ childScopes ns
termination_by structural ns => ns

end

/-- The children and attributes of a node that pass a test. -/
def Test.matches (n : Node) : Test → List Node
  | name wanted => n.elements.filter fun child => child.name? == some (localName wanted)
  | anyElement => n.elements
  | attr wanted =>
    (n.attributes.filter fun a => a.name == localName wanted).map Node.attr
  | anyAttribute => n.attributes.map Node.attr
  | text => n.children.filter Node.isText

/-- The nodes that satisfy a predicate. -/
def Predicate.filter : Predicate → List Node → List Node
  | position n, nodes => if n == 0 then [] else nodes[n - 1]?.toList
  | attr name value, nodes =>
    nodes.filter fun n => n.attributes.any fun a => a.name == name && a.value == value
  | child name value, nodes =>
    nodes.filter fun n => n.elements.any fun c =>
      c.name? == some name && Text.trimmed c.innerText == value

def filterAll (predicates : List Predicate) (nodes : List Node) : List Node :=
  predicates.foldl (fun nodes p => p.filter nodes) nodes

/-- The nodes that a step finds from a node. Predicates count within one parent. -/
def Step.select (s : Step) (n : Node) : List Node :=
  match s.axis with
  | .self => filterAll s.predicates [n]
  | .child => filterAll s.predicates (s.test.matches n)
  | .descendant => (scopes n).flatMap fun n => filterAll s.predicates (s.test.matches n)

def selectAll (steps : List Step) (n : Node) : List Node :=
  steps.foldl (fun found s => found.flatMap s.select) [n]

/-- Every node that the path finds in the document of `root`; relative paths start at `current`. -/
def select (p : NodePath) (root current : Node) : List Node :=
  selectAll p.steps (if p.isAbsolute then root.document else current)

end Recast.NodePath
