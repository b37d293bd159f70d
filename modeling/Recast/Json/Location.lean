import Recast.Json.Value

/-!
# Locations

A location leads through keys and indices to one place of a value.
-/

namespace Recast.Json

/-- A step to a member or to an element. -/
inductive Step where
  | key (name : String)
  | index (i : Nat)
deriving DecidableEq, Repr

/-- The steps to a place of a value, the outermost first. -/
abbrev Location := List Step

namespace Value

/-- What one step leads to. -/
def child? : Step → Value → Option Value
  | .key name, .object fields => Fields.get? name fields
  | .index i, .array items => items[i]?
  | _, _ => none

/-- What stands at a location. -/
def at? : Location → Value → Option Value
  | [], v => some v
  | s :: loc, v => (v.child? s).bind (at? loc)

end Value

end Recast.Json
