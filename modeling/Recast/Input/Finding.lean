import Recast.Json.Value
import Recast.Markup.Node
import Recast.Text.Basic

/-!
# What lookups find

A lookup finds a JSON value or some nodes in document order.
-/

namespace Recast.Input

open Json (Value)
open Markup (Node)

inductive Finding where
  | json (v : Value)
  | nodes (ns : List Node)

namespace Finding

/-- A finding of a value, unless it is null. -/
def ofJson? (v : Value) : Option Finding := if v.isNull then none else some (json v)

/-- A finding of nodes, unless there are none. -/
def ofNodes? (ns : List Node) : Option Finding := if ns.isEmpty then none else some (nodes ns)

/-- The text of a node without surrounding blanks. -/
def textOf (n : Node) : String := Text.trimmed n.innerText

/-- The text of the first node. -/
def nodeText? : Finding → Option String
  | nodes ns => ns.head?.map textOf
  | json _ => none

/-- As a JSON value: a node stands for its text, several nodes for a list of texts. -/
def toJson : Finding → Value
  | json v => v
  | nodes [n] => .string (textOf n)
  | nodes ns => .array (ns.map fun n => .string (textOf n))

/-- The elements that a list instance is built from: those of a list, single nodes, or the finding
itself. -/
def seeds : Finding → List Finding
  | json (.array items) => items.map json
  | nodes ns => ns.map fun n => nodes [n]
  | f => [f]

end Finding

end Recast.Input
