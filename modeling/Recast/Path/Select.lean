import Recast.Path.Basic
import Recast.Json.Value

/-!
# Selecting values

`select` lists what a path finds in a value, step by step. Both roots stand for the value itself.
-/

namespace Recast.Path

open Json (Value)

mutual

/-- The value and everything below it, parents first. -/
def descendants (v : Value) : List Value :=
  v :: match v with
    | .array items => itemDescendants items
    | .object fields => fieldDescendants fields
    | _ => []
termination_by structural v

def itemDescendants : List Value → List Value
  | [] => []
  | v :: vs => descendants v ++ itemDescendants vs
termination_by structural vs => vs

def fieldDescendants : List (String × Value) → List Value
  | [] => []
  | (_, v) :: vs => descendants v ++ fieldDescendants vs
termination_by structural vs => vs

end

/-- The elements or members of a value. -/
def children : Value → List Value
  | .array items => items
  | .object fields => fields.map (·.2)
  | _ => []

/-- What one step finds. -/
def Selector.select : Selector → Value → List Value
  | child name, v => (v.field? name).toList
  | index i, .array items => items[i]?.toList
  | index _, _ => []
  | fromEnd i, .array items => if i ≤ items.length then items[items.length - i]?.toList else []
  | fromEnd _, _ => []
  | wildcard, v => children v
  | descent, v => descendants v

/-- What a list of steps finds. -/
def selectAll (selectors : List Selector) (v : Value) : List Value :=
  selectors.foldl (fun found s => found.flatMap s.select) [v]

/-- Every value that the path finds. -/
def select (p : Path) (v : Value) : List Value := selectAll p.selectors v

/-- The first value that the path finds. -/
def first? (p : Path) (v : Value) : Option Value := (p.select v).head?

end Recast.Path
