import Recast.Json.Reader
import Recast.Storage.Folder
import Recast.Text.Case
import Recast.Yaml.Value

/-!
# Schema files

A schema is an object in a JSON or YAML file; the extension tells which. A library keeps the schemas
it has loaded.
-/

namespace Recast.Schema

open Json (Value)
open Storage

inductive FileFormat where
  | json
  | yaml
deriving DecidableEq, Repr

/-- The format of a file, by its extension in any case. -/
def FileFormat.ofPath? (path : String) : Option FileFormat :=
  match (Location.extension? path).map Text.lowered with
  | some "yaml" | some "yml" => some yaml
  | some "json" => some json
  | _ => none

/-- Why a file is no schema. -/
inductive FileProblem where
  | unreadable (trouble : Trouble)
  | notYaml
  | notJson (cause : String)
  | unsupported
  | notObject
deriving DecidableEq, Repr

structure FileFault where
  path : String
  problem : FileProblem
deriving DecidableEq, Repr

def FileFault.message (f : FileFault) : String :=
  let path := "'" ++ f.path ++ "'"
  match f.problem with
  | .unreadable trouble => "Failed to read schema file " ++ path ++ ": " ++ trouble.message
  | .notYaml => "Failed to parse YAML schema " ++ path ++ ":"
  | .notJson cause => "Failed to parse JSON schema " ++ path ++ ": " ++ cause
  | .unsupported => "Unsupported schema format for " ++ path ++ ". Expected .json, .yaml or .yml"
  | .notObject => "Schema " ++ path ++ " must be a JSON object at the root level"

/-- The value of a text in a format. -/
def FileFormat.parse (format : FileFormat) (content : String) : Except FileProblem Value :=
  match format with
  | json => match Json.parse content with
    | .ok v => .ok v
    | .error fault => .error (.notJson fault.message)
  | yaml => match (Yaml.Document.parse? content).bind Yaml.Value.ofDocument? with
    | some v => match v.toJson with
      | .ok v => .ok v
      | .error fault => .error (.notJson fault.message)
    | none => .error .notYaml

/-- The value of a file. -/
def parseFile (path content : String) : Except FileFault (FileFormat × Value) :=
  match FileFormat.ofPath? path with
  | none => .error ⟨path, .unsupported⟩
  | some format => match format.parse content with
    | .ok v => .ok (format, v)
    | .error problem => .error ⟨path, problem⟩

/-- The schema that a file holds, if it could be read. -/
def readFile (path : String) (content : Except Trouble String) : Except FileFault Value :=
  match FileFormat.ofPath? path, content with
  | none, _ => .error ⟨path, .unsupported⟩
  | some _, .error trouble => .error ⟨path, .unreadable trouble⟩
  | some _, .ok content => do
    let (_, v) ← parseFile path content
    if v.isObject then .ok v else .error ⟨path, .notObject⟩

/-! ## Libraries -/

/-- The schemas loaded so far, by the parts of their names. -/
structure Library where
  loaded : List (List String × Value)

namespace Library

def empty : Library := ⟨[]⟩

def size (l : Library) : Nat := l.loaded.length

/-- The schema of a name, and the library that has it. Only schemas are kept. -/
def load (l : Library) (folder : Folder) (path : String) : Except FileFault Value × Library :=
  match l.loaded.lookup (Location.parts path) with
  | some v => (.ok v, l)
  | none => match readFile path (folder.read path) with
    | .ok v => (.ok v, ⟨(Location.parts path, v) :: l.loaded⟩)
    | .error fault => (.error fault, l)

end Library

end Recast.Schema
