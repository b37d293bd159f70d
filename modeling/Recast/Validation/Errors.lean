import Recast.Text.Basic

/-!
# Violations

A violation tells where a document breaks its schema. Collections of violations are kept in order of
the place in the document, then of the place in the schema, then of the message.
-/

namespace Recast.Validation

/-- A place in a document that breaks a rule at a place of the schema. -/
structure Violation where
  instancePath : String
  schemaPath : String
  message : String
deriving DecidableEq, Repr

namespace Violation

/-- The order of violations. -/
def le (a b : Violation) : Bool :=
  if a.instancePath != b.instancePath then a.instancePath < b.instancePath
  else if a.schemaPath != b.schemaPath then a.schemaPath < b.schemaPath
  else a.message ≤ b.message

def text (v : Violation) : String :=
  (if v.instancePath.isEmpty then "/" else v.instancePath) ++ ": " ++ v.message

end Violation

namespace Violations

/-- Where the items that satisfy `p` end, if they all come first, among the `size` items from `base` on:
the range is halved until one item is left. -/
def boundaryFrom (p : α → Bool) (items : List α) (base size : Nat) : Nat :=
  if size ≤ 1 then
    if items[base]?.any p then base + 1 else base
  else
    let half := size / 2
    boundaryFrom p items (if items[base + half]?.any p then base + half else base) (size - half)
termination_by size

/-- The number of items that satisfy `p`, if they all come first. -/
def boundary (p : α → Bool) (items : List α) : Nat := boundaryFrom p items 0 items.length

/-- Adds a violation to a collection in order, behind those that are not greater. -/
def add (v : Violation) (vs : List Violation) : List Violation :=
  vs.insertIdx (boundary (·.le v) vs) v

/-- A collection of violations in order. -/
def ofList (vs : List Violation) : List Violation := vs.mergeSort Violation.le

def text (vs : List Violation) : String :=
  toString vs.length ++ " validation error(s)" ++
    String.join (vs.map fun v => "\n  - " ++ v.text)

end Violations

end Recast.Validation
