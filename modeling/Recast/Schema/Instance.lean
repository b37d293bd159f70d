import Recast.Schema.Rule
import Recast.Schema.Walk

/-!
# Instances

`Instance.read` reads a schema into a tree of instances with their kinds, defaults and rules.
Whatever is wrong with it is reported for the first instance in the order of the walk.
-/

namespace Recast.Schema

open Json (Value Fields)

/-- What an instance declares about itself. -/
structure Declared where
  path : String
  name : Option String
  default : Option Value
  required : List String
  /-- The rules by the name of their rule set. -/
  rules : List (String × Rule)

inductive Instance where
  | scalar (declared : Declared) (kind : Scalar)
  | object (declared : Declared) (properties : List Instance)
  | array (declared : Declared) (items : Instance)

inductive Problem where
  | walk (problem : WalkProblem)
  | noType
  | badType (name : String)
  | badRules
  | badRule (fault : RuleFault)
  /-- The schema is no valid schema for validation; the pointer tells where. -/
  | notCompiled (pointer : String)

/-- What is wrong with a schema, and the path of the instance. -/
structure Fault where
  path : String
  problem : Problem

def Fault.message (f : Fault) : String :=
  match f.problem with
  | .walk problem => WalkFault.message ⟨problem, f.path⟩
  | .noType => "instance declares no type"
  | .badType name => "unsupported type '" ++ name ++ "'"
  | .badRules => "'transform' must be an object"
  | .badRule fault => fault.message
  | .notCompiled pointer => (if pointer.isEmpty then "/" else pointer) ++ ": Invalid schema:"

/-! ## What an instance declares -/

/-- Whether a path is that of list items. -/
def isItemPath (path : String) : Bool := (Text.dropEnd? "[*]".toList path.toList).isSome

/-- What an at sign stands for in the rules of an instance: items are themselves the enclosing
place. -/
def enclosing (path parent : String) : String := if isItemPath path then path else parent

def readKind (path : String) (fields : Fields) : Except Fault Kind :=
  match typeName? fields with
  | none => .error ⟨path, .noType⟩
  | some name =>
    match Kind.ofName? name ((Fields.get? "format" fields).bind Value.string?) with
    | some kind => .ok kind
    | none => .error ⟨path, .badType name⟩

def readRules (path parent : String) (kind : Kind) (fields : Fields) :
    Except Fault (List (String × Rule)) :=
  match Fields.get? "transform" fields with
  | none => .ok []
  | some (.object blocks) =>
    blocks.mapM fun (ruleSet, block) =>
      match Rule.build (enclosing path parent) kind block with
      | .ok rule => .ok (ruleSet, rule)
      | .error fault => .error ⟨path, .badRule fault⟩
  | some _ => .error ⟨path, .badRules⟩

def readRequired (fields : Fields) : List String :=
  match Fields.get? "required" fields with
  | some (.array names) => names.filterMap Value.string?
  | _ => []

def readDefault (fields : Fields) : Option Value :=
  (Fields.get? "default" fields).bind Value.present

/-- What the fragment of an instance declares, and its kind. -/
def Declared.read (path parent : String) (name : Option String) (fields : Fields) :
    Except Fault (Declared × Kind) := do
  let kind ← readKind path fields
  let rules ← readRules path parent kind fields
  .ok (⟨path, name, readDefault fields, readRequired fields, rules⟩, kind)

/-! ## The tree -/

namespace Instance

def walkFault (problem : WalkProblem) (path : String) : Except Fault α :=
  .error ⟨path, .walk problem⟩

mutual

/-- The instance that a fragment describes; `parent` is the path of the instance around it. -/
def read (path parent : String) (name : Option String) (fragment : Value) : Except Fault Instance :=
  match fragment with
  | .object fields => do
    let (declared, kind) ← Declared.read path parent name fields
    match kind with
    | .scalar kind => .ok (.scalar declared kind)
    | .object => do .ok (.object declared (← readProperties path fields))
    | .array => do .ok (.array declared (← readItems path fields))
  | _ => walkFault .notAnObject path
termination_by structural fragment

def readProperties (path : String) : List (String × Value) → Except Fault (List Instance)
  | [] => walkFault .missingProperties path
  | (key, v) :: rest =>
    if key == "properties" then
      match v with
      | .object properties => readEach path properties
      | _ => walkFault .missingProperties path
    else readProperties path rest
termination_by structural fields => fields

def readItems (path : String) : List (String × Value) → Except Fault Instance
  | [] => walkFault .missingItems path
  | (key, v) :: rest =>
    if key == "items" then
      match v with
      | .object items => read (Path.itemPath path) path none (.object items)
      | _ => walkFault .missingItems path
    else readItems path rest
termination_by structural fields => fields

def readEach (path : String) : List (String × Value) → Except Fault (List Instance)
  | [] => .ok []
  | (name, v) :: rest => do
    let first ← read (Path.childPath path name) path (some name) v
    .ok (first :: (← readEach path rest))
termination_by structural properties => properties

end

def declared : Instance → Declared
  | scalar d _ => d
  | object d _ => d
  | array d _ => d

def path (i : Instance) : String := i.declared.path

def kind : Instance → Kind
  | scalar _ s => .scalar s
  | object .. => .object
  | array .. => .array

/-- The rule of a rule set. -/
def rule? (i : Instance) (ruleSet : String) : Option Rule := i.declared.rules.lookup ruleSet

/-- The instances of the properties of an object. -/
def properties : Instance → List Instance
  | object _ properties => properties
  | _ => []

def items? : Instance → Option Instance
  | array _ items => some items
  | _ => none

mutual

/-- The instance and everything below it, parents first. -/
def all (i : Instance) : List Instance :=
  i :: match i with
    | .scalar .. => []
    | .object _ properties => allOf properties
    | .array _ items => all items
termination_by structural i

def allOf : List Instance → List Instance
  | [] => []
  | i :: rest => all i ++ allOf rest
termination_by structural is => is

end

end Instance

/-- The names of the rule sets that an instance has rules of, in order. -/
def Instance.ruleSets (i : Instance) : List String :=
  (i.declared.rules.map (·.1)).mergeSort fun a b => a ≤ b

/-! ## Descriptors -/

/-- A schema and the instances it describes. -/
structure Descriptor where
  root : Instance
  schema : Value

namespace Descriptor

def read (schema : Value) : Except Fault Descriptor := do
  .ok ⟨← Instance.read Path.rootPath Path.rootPath none schema, schema⟩

/-- Every instance in the order of the walk. -/
def instances (d : Descriptor) : List Instance := d.root.all

/-- The names of all rule sets, in order. -/
def ruleSets (d : Descriptor) : List String :=
  ((d.instances.flatMap Instance.ruleSets).mergeSort fun a b => a ≤ b).eraseDups

end Descriptor

end Recast.Schema
