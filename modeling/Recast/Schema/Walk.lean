import Recast.Json.Value
import Recast.Path.Printer

/-!
# Walking schemas

A schema describes instances: the root, the properties of objects and the items of lists. `entries`
lists them in order, parents first, with the path of each; the walk ends early where an object
declares no properties or a list no items. `visitAll` shows each entry to a visitor on the way, who
can end the walk too.
-/

namespace Recast.Schema

open Json (Value Fields)

/-- How an instance hangs off its parent. -/
inductive Key where
  | root
  | property (name : String)
  | items
deriving DecidableEq, Repr

structure Entry where
  path : String
  depth : Nat
  key : Key
  fragment : Value

inductive WalkProblem where
  | notAnObject
  | missingProperties
  | missingItems
deriving DecidableEq, Repr

/-- Where a walk ended early, and why. -/
structure WalkFault where
  problem : WalkProblem
  path : String
deriving DecidableEq, Repr

def WalkFault.message (f : WalkFault) : String :=
  match f.problem with
  | .notAnObject => "Schema fragment at " ++ f.path ++ " must be an object"
  | .missingProperties => "Object instance at " ++ f.path ++ " has no properties"
  | .missingItems => "Array instance at " ++ f.path ++ " has no items schema"

/-- The first string in a list that is not `null`. -/
def firstTypeName? (names : List Value) : Option String :=
  (names.filterMap Value.string?).find? (· != "null")

/-- The type that a fragment declares, by name or by what describes its parts. -/
def typeName? (fragment : Fields) : Option String :=
  match Fields.get? "type" fragment with
  | some (.string name) => some name
  | some (.array names) => firstTypeName? names
  | _ =>
    if Fields.has "properties" fragment then some "object"
    else if Fields.has "items" fragment then some "array"
    else none

/-- The type of a fragment of any kind. -/
def declaredType? : Value → Option String
  | .object fields => typeName? fields
  | _ => none

/-- The entries that a walk visits and the fault that ends it. -/
structure Walk where
  entries : List Entry
  fault : Option WalkFault

namespace Walk

def failed (problem : WalkProblem) (path : String) : Walk := ⟨[], some ⟨problem, path⟩⟩

/-- One walk, and if it has no fault the next one after it. -/
def andThen (a b : Walk) : Walk :=
  match a.fault with
  | some _ => a
  | none => ⟨a.entries ++ b.entries, b.fault⟩

end Walk

mutual

/-- The walk of a fragment and everything it describes. -/
def walk (path : String) (depth : Nat) (key : Key) (fragment : Value) : Walk :=
  match fragment with
  | .object fields =>
    let parts := match typeName? fields with
      | some "object" => walkProperties path depth fields
      | some "array" => walkItems path depth fields
      | _ => ⟨[], none⟩
    ⟨⟨path, depth, key, .object fields⟩ :: parts.entries, parts.fault⟩
  | _ => .failed .notAnObject path
termination_by structural fragment

/-- The walk of the properties that one of the members holds. -/
def walkProperties (path : String) (depth : Nat) : List (String × Value) → Walk
  | [] => .failed .missingProperties path
  | (key, v) :: rest =>
    if key == "properties" then
      match v with
      | .object properties => walkEach path depth properties
      | _ => .failed .missingProperties path
    else walkProperties path depth rest
termination_by structural fields => fields

/-- The walk of the items that one of the members holds. -/
def walkItems (path : String) (depth : Nat) : List (String × Value) → Walk
  | [] => .failed .missingItems path
  | (key, v) :: rest =>
    if key == "items" then
      match v with
      | .object items => walk (Path.itemPath path) (depth + 1) .items (.object items)
      | _ => .failed .missingItems path
    else walkItems path depth rest
termination_by structural fields => fields

/-- The walk of properties, one after the other. -/
def walkEach (path : String) (depth : Nat) : List (String × Value) → Walk
  | [] => ⟨[], none⟩
  | (name, v) :: rest =>
    (walk (Path.childPath path name) (depth + 1) (.property name) v).andThen
      (walkEach path depth rest)
termination_by structural properties => properties

end

/-- The walk of a schema. -/
def entries (schema : Value) : Walk := walk Path.rootPath 0 .root schema

/-! ## Visitors -/

section Visitors

variable {ε : Type}

/-- A visitor answers an entry, and may remember the entries that it was shown before. -/
abbrev Visitor (ε : Type) := List Entry → Entry → Except ε Unit

/-- Entries are shown one after the other, up to the first error; the state is what was shown. -/
abbrev Showing (ε : Type) := ExceptT ε (StateM (List Entry))

/-- The entry counts as shown, whatever the visitor answers. -/
def Visitor.see (visitor : Visitor ε) (e : Entry) : Showing ε Unit :=
  ExceptT.mk fun shown => (visitor shown e, shown ++ [e])

variable (visitor : Visitor ε) (ofFault : WalkFault → ε)

mutual

/-- A visit to a fragment and everything it describes. -/
def visit (path : String) (depth : Nat) (key : Key) (fragment : Value) : Showing ε Unit :=
  match fragment with
  | .object fields => do
    visitor.see ⟨path, depth, key, .object fields⟩
    match typeName? fields with
    | some "object" => visitProperties path depth fields
    | some "array" => visitItems path depth fields
    | _ => pure ()
  | _ => throw (ofFault ⟨.notAnObject, path⟩)
termination_by structural fragment

/-- A visit to the properties that one of the members holds. -/
def visitProperties (path : String) (depth : Nat) : List (String × Value) → Showing ε Unit
  | [] => throw (ofFault ⟨.missingProperties, path⟩)
  | (key, v) :: rest =>
    if key == "properties" then
      match v with
      | .object properties => visitEach path depth properties
      | _ => throw (ofFault ⟨.missingProperties, path⟩)
    else visitProperties path depth rest
termination_by structural fields => fields

/-- A visit to the items that one of the members holds. -/
def visitItems (path : String) (depth : Nat) : List (String × Value) → Showing ε Unit
  | [] => throw (ofFault ⟨.missingItems, path⟩)
  | (key, v) :: rest =>
    if key == "items" then
      match v with
      | .object items => visit (Path.itemPath path) (depth + 1) .items (.object items)
      | _ => throw (ofFault ⟨.missingItems, path⟩)
    else visitItems path depth rest
termination_by structural fields => fields

/-- A visit to properties, one after the other. -/
def visitEach (path : String) (depth : Nat) : List (String × Value) → Showing ε Unit
  | [] => pure ()
  | (name, v) :: rest => do
    visit (Path.childPath path name) (depth + 1) (.property name) v
    visitEach path depth rest
termination_by structural properties => properties

end

/-- How the walk of a schema with a visitor ends, and the entries that were shown. -/
def visitAll (schema : Value) : Except ε Unit × List Entry :=
  (visit visitor ofFault Path.rootPath 0 .root schema).run []

end Visitors

end Recast.Schema
