import Recast.NodePath.Printer
import Recast.Path.Basic

/-!
# Node paths of paths

A path into a value reads as a node path: members are child elements, members whose name starts with
an at sign are attributes, and a position counts the elements of one name. Positions count from 1 and
have 64 bits, so that no position follows the last index of all.
-/

namespace Recast.NodePath

open Recast.Path (Selector)

/-- Why a path is given no node path. -/
inductive Unmapped where
  /-- A selector stands for nothing in node paths. -/
  | unsupported
  /-- The position after an index does not fit. Nothing that depends on it goes on. -/
  | overflow
deriving DecidableEq, Repr

/-- The position, counted from 1, of an index counted from 0. -/
def positionAfter (i : Nat) : Except Unmapped Nat :=
  if i + 1 < Nat.pow 2 64 then .ok (i + 1) else .error .overflow

/-- The steps so far, reversed, and whether a descent comes next. -/
structure Draft where
  steps : List Step
  descends : Bool

namespace Draft

def push (d : Draft) (test : Test) : Draft :=
  ⟨⟨if d.descends then .descendant else .child, test, []⟩ :: d.steps, false⟩

/-- Adds what a selector stands for, if it stands for anything. -/
def add (d : Draft) : Selector → Except Unmapped Draft
  | .descent => .ok { d with descends := true }
  | .child name =>
    match name.toList with
    | '@' :: rest => .ok (d.push (.attr (String.ofList rest)))
    | _ => .ok (d.push (.name name))
  | .wildcard => .ok (d.push .anyElement)
  | .index i =>
    match d.descends, d.steps with
    | false, last :: steps => do
      let n ← positionAfter i
      .ok { d with steps := { last with predicates := last.predicates ++ [.position n] } :: steps }
    | _, _ => .error .unsupported
  | .fromEnd _ => .error .unsupported

end Draft

/-- The node path that selects what the path's selectors do: from the document, where the root
element is the first step, or from a node. -/
def ofPath (p : Path) (isAbsolute : Bool) : Except Unmapped NodePath := do
  let start : Draft := ⟨if isAbsolute then [⟨.child, .anyElement, []⟩] else [], false⟩
  let draft ← p.selectors.foldlM Draft.add start
  let steps := if draft.steps.isEmpty then [⟨.self, .anyElement, []⟩] else draft.steps.reverse
  .ok ⟨isAbsolute, steps, renderSteps isAbsolute steps⟩

/-- The node path of a path, if it has one. -/
def ofPath? (p : Path) (isAbsolute : Bool) : Option NodePath := (ofPath p isAbsolute).toOption

end Recast.NodePath
