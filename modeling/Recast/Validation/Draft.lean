import Recast.Json.Value

/-!
# Drafts

The editions of the schema language. A schema names its draft by an address; without one it is read
as the latest.
-/

namespace Recast.Validation

open Json (Value)

inductive Draft where
  | draft4
  | draft6
  | draft7
  | draft2019
  | draft2020
deriving DecidableEq, Repr

namespace Draft

def rank : Draft → Nat
  | draft4 => 4
  | draft6 => 6
  | draft7 => 7
  | draft2019 => 2019
  | draft2020 => 2020

/-- Whether a draft is this one or a later one. -/
def since (d first : Draft) : Bool := first.rank ≤ d.rank

/-- The draft of an address without its fragment mark. -/
def ofAddress? : String → Option Draft
  | "https://json-schema.org/draft/2020-12/schema" => some draft2020
  | "https://json-schema.org/draft/2019-09/schema" => some draft2019
  | "http://json-schema.org/draft-07/schema" => some draft7
  | "http://json-schema.org/draft-06/schema" => some draft6
  | "http://json-schema.org/draft-04/schema" => some draft4
  | _ => none

def dropMarks (s : String) : String := String.ofList (s.toList.reverse.dropWhile (· == '#')).reverse

/-- The draft that a schema is written in, if it is a known one. -/
def detect? (schema : Value) : Option Draft :=
  match (schema.field? "$schema").bind Value.string? with
  | some address => ofAddress? (dropMarks address)
  | none => some draft2020

/-- The key that gives a schema its address. -/
def idKey : Draft → String
  | draft4 => "id"
  | _ => "$id"

/-- Whether a reference stands alone in its schema, so that nothing beside it counts. -/
def isolatesReferences (d : Draft) : Bool := !d.since draft2019

/-- Whether formats are checked. -/
def checksFormats (d : Draft) : Bool := !d.since draft2019

/-- Whether encoded content is checked. -/
def checksContent (d : Draft) : Bool := d == draft6 || d == draft7

end Draft

/-! ## Pointers -/

/-- The keys and positions on the way to a place, the last one first. -/
abbrev Trail := List String

/-- One step of a pointer. -/
def pointerStep (token : String) : String :=
  "/" ++ String.ofList (token.toList.flatMap fun c =>
    if c == '~' then ['~', '0'] else if c == '/' then ['~', '1'] else [c])

/-- The pointer to a place. -/
def pointer (trail : Trail) : String := String.join (trail.reverse.map pointerStep)

end Recast.Validation
