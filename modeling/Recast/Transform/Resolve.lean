import Recast.Coercion
import Recast.Input.Context
import Recast.Operation.Run
import Recast.Transform.Error

/-!
# Resolving instances

The value of an instance comes from its rule in the active rule set, else from the same path of the
input unless it is an object, else from its default.
-/

namespace Recast.Transform

open Input (Finding Context)
open Schema (Instance Rule Source)

/-- The path of list items and the path of the element that it stands for. -/
structure Element where
  general : String
  concrete : String

/-- What an instance is resolved in: the active rule set, the input, and the elements around the
instance, the innermost first. -/
structure Place where
  ruleSet : String
  input : Context
  elements : List Element

namespace Place

/-- The place outside of lists. -/
def start (ruleSet : String) (document : Input.Document) : Place :=
  ⟨ruleSet, .ofDocument document, []⟩

/-- Replaces the path of items by that of the element, if the path is at or below it. -/
def substitute (path : String) (e : Element) : String :=
  match Input.below? e.general path with
  | some rest => e.concrete ++ rest
  | none => path

/-- The path inside the elements around the place. -/
def concrete (p : Place) (path : String) : String := p.elements.foldl substitute path

/-- The place inside an element. -/
def enter (p : Place) (items element : String) (seed : Finding) : Place :=
  { p with input := p.input.narrow element seed, elements := ⟨items, element⟩ :: p.elements }

end Place

def lookup (p : Place) (path : String) : Except Error (Option Finding) :=
  match p.input.lookup path with
  | .ok found => .ok found
  | .error fault => .error (.ofLookup fault)

/-- What a source points at. Node paths are for markup; everything else is looked up by path. -/
def find (p : Place) (s : Source) : Except Error (Option Finding) :=
  match p.input.document, s.nodePath, s.path with
  | .markup _, some nodePath, _ => .ok (p.input.lookupNodes nodePath)
  | _, _, some path => lookup p (p.concrete path)
  | _, _, none => .ok none

/-- The finding as a value of the instance's kind, if it can be one. -/
def coerced (kind : Kind) (f : Finding) : Finding :=
  match kind.scalar?.bind f.coerce? with
  | some v => .json v
  | none => f

/-- Runs operations one after the other until one gives null. -/
def runAll (path : String) : List Operation → Json.Value → Except Error (Option Finding)
  | [], v => .ok (Finding.ofJson? v)
  | operation :: rest, v =>
    match operation.run v with
    | .error cause => .error (.operation path operation.name cause)
    | .ok .null => .ok none
    | .ok v => runAll path rest v

/-- The value of one source. -/
def evaluate (p : Place) (kind : Kind) (path : String) (s : Source) :
    Except Error (Option Finding) := do
  match ← find p s with
  | none => .ok none
  | some found =>
    let found := coerced kind found
    if s.operations.isEmpty then .ok (some found) else runAll path s.operations found.toJson

/-- The value of the first source that has one. -/
def firstOf (p : Place) (kind : Kind) (path : String) : List Source → Except Error (Option Finding)
  | [] => .ok none
  | s :: rest => do
    match ← evaluate p kind path s with
    | some found => .ok (some found)
    | none => firstOf p kind path rest

/-- The texts of the sources that have a value. -/
def parts (p : Place) (kind : Kind) (path : String) : List Source → Except Error (List String)
  | [] => .ok []
  | s :: rest => do
    match (← evaluate p kind path s).map Finding.toJson with
    | none | some .null => parts p kind path rest
    | some (.string part) => do .ok (part :: (← parts p kind path rest))
    | some v => .error (.operation path "concatenate" (Operation.wrongKind "string" v))

/-- The value of a rule. -/
def applyRule (p : Place) (kind : Kind) (path : String) (rule : Rule) :
    Except Error (Option Finding) :=
  match rule.method with
  | .first => firstOf p kind path rule.sources
  | .last => firstOf p kind path rule.sources.reverse
  | .concatenate => do
    .ok ((Schema.concatenate rule.delimiter (← parts p kind path rule.sources)).map
      fun joined => .json (.string joined))

/-- The value at the path of the instance in the input, as one of its kind. -/
def copy (p : Place) (kind : Kind) (path : String) : Except Error (Option Finding) := do
  match ← lookup p path with
  | none => .ok none
  | some found =>
    match kind.scalar? with
    | some s => .ok ((found.coerce? s).map .json)
    | none => .ok (some found)

/-- The value of an instance. -/
def resolve (p : Place) (i : Instance) : Except Error (Option Finding) := do
  let path := p.concrete i.path
  let byRule ← match i.rule? p.ruleSet with
    | some rule => applyRule p i.kind path rule
    | none => .ok none
  match byRule with
  | some found => .ok (some found)
  | none =>
    let copied ← if i.kind == .object then .ok none else copy p i.kind path
    match copied with
    | some found => .ok (some found)
    | none => .ok (i.declared.default.map .json)

end Recast.Transform
