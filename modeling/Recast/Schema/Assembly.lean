import Recast.Schema.Instance

/-!
# Instances put together along a walk

The instances of a schema can be put together entry by entry. A stack holds those that lead to the
last entry, innermost first; they are attached to the ones around them when an entry comes that is no
deeper than they are, and at the end.
-/

namespace Recast.Schema

open Json (Value)

def Key.name? : Key → Option String
  | property name => some name
  | root | items => none

/-- An instance on the way: a list may still be without its items. -/
inductive Assembled where
  | mk (declared : Declared) (kind : Kind) (properties : List Assembled) (items : Option Assembled)

namespace Assembled

def declared : Assembled → Declared
  | mk declared _ _ _ => declared

/-- The instance with a part attached, as its items if it is a list and else as its last property. -/
def adopt : (parent child : Assembled) → Assembled
  | mk declared .array properties _, child => mk declared .array properties (some child)
  | mk declared kind properties items, child => mk declared kind (properties ++ [child]) items

end Assembled

/-- Takes the innermost instance off the stack and attaches it to the one around it, if any. -/
def attach : List Assembled → List Assembled
  | child :: parent :: rest => parent.adopt child :: rest
  | _ => []

/-- Attaches instances until no more than `depth` are left. -/
def unwind (depth : Nat) (stack : List Assembled) : List Assembled :=
  Nat.repeat attach (stack.length - depth) stack

def topPath (stack : List Assembled) : String :=
  (stack.head?.map fun i => i.declared.path).getD Path.rootPath

def enter (stack : List Assembled) (e : Entry) : Except Fault (List Assembled) := do
  let outer := unwind e.depth stack
  let (declared, kind) ←
    Declared.read e.path (topPath outer) e.key.name? (e.fragment.object?.getD [])
  .ok (.mk declared kind [] none :: outer)

/-- Enters what is walked, and fails with the fault that ends the walk. -/
def Walk.enterAll (w : Walk) (stack : List Assembled) : Except Fault (List Assembled) := do
  let stack ← w.entries.foldlM enter stack
  match w.fault with
  | some fault => .error ⟨fault.path, .walk fault.problem⟩
  | none => .ok stack

/-- The root of what is put together along the walk of a schema, if there is any. -/
def assemble (schema : Value) : Except Fault (Option Assembled) := do
  let stack ← (entries schema).enterAll []
  .ok (unwind 1 stack).head?

end Recast.Schema
