import Recast.Json.Outline
import Recast.Settings.Basic
import Recast.Storage.Location
import Recast.Toml.Reader
import Recast.Yaml.Value

/-!
# Settings files

Settings are read from TOML, YAML or JSON. What is missing has its standard value, and unknown
members do not count. A record may also be a list of its members in order, except in YAML.
-/

namespace Recast.Settings

inductive FileFormat where
  | toml
  | yaml
  | json
deriving DecidableEq, Repr

namespace FileFormat

def name : FileFormat → String
  | toml => "toml"
  | yaml => "yaml"
  | json => "json"

def all : List FileFormat := [toml, json, yaml]

def ofName? (s : String) : Option FileFormat := all.find? fun f => f.name == s

/-- The format of a file, by its extension in lower case. -/
def ofPath (path : String) : Except Fault FileFormat :=
  match Storage.Location.extension? path with
  | some "toml" => .ok toml
  | some "yaml" | some "yml" => .ok yaml
  | some "json" => .ok json
  | _ => .error (.unsupportedFile path)

end FileFormat

/-! ## Sources -/

/-- How values of a file format are taken as members of settings. -/
structure Source (α : Type) where
  text? : α → Option String
  /-- A text that may be null. -/
  optionalText? : α → Option (Option String)
  flag? : α → Option Bool
  /-- One of several names. -/
  name? : α → Option String
  /-- The members of a record with the given keys, as they are written. -/
  members? : List String → α → Option (List (String × α))

/-- Reads members one by one; none of them comes twice. -/
def readMembers? (read : String → α → β → Option β) : (seen : List String) → List (String × α) → β →
    Option β
  | _, [], record => some record
  | seen, (key, a) :: rest, record =>
    if seen.contains key then none
    else (read key a record).bind (readMembers? read (key :: seen) rest)

namespace Source

def transform? (s : Source α) (a : α) : Option TransformSettings := do
  let members ← s.members? ["format", "pretty", "validate"] a
  readMembers? (fun key a (t : TransformSettings) =>
    match key with
    | "format" => do
      let format ← FormatChoice.ofName? (← s.name? a)
      some { t with format }
    | "pretty" => (s.flag? a).map fun pretty => { t with pretty }
    | "validate" => (s.flag? a).map fun validate => { t with validate }
    | _ => some t) [] members standard.transform

def logging? (s : Source α) (a : α) : Option LogSettings := do
  let members ← s.members? ["level", "format"] a
  readMembers? (fun key a (l : LogSettings) =>
    match key with
    | "level" => (s.text? a).map fun level => { l with level }
    | "format" => do
      let format ← LogFormat.ofName? (← s.name? a)
      some { l with format }
    | _ => some l) [] members standard.logging

def settings? (s : Source α) (a : α) : Option Settings := do
  let members ← s.members? ["rule_set", "transform", "logging"] a
  readMembers? (fun key a (r : Settings) =>
    match key with
    | "rule_set" => (s.optionalText? a).map fun ruleSet => { r with ruleSet }
    | "transform" => (s.transform? a).map fun transform => { r with transform }
    | "logging" => (s.logging? a).map fun logging => { r with logging }
    | _ => some r) [] members standard

end Source

/-- The members whose keys are known. -/
def known (keys : List String) (members : List (String × α)) : List (String × α) :=
  members.filter fun m => keys.contains m.1

/-! ## JSON -/

def jsonName? : Json.Outline → Option String
  | .record members => do
    match ← Json.Outline.keyed? members with
    | [(name, v)] => if (v.value.map (·.isNull)).getD false then some name else none
    | _ => none
  | o => o.text?

def jsonMembers? (keys : List String) : Json.Outline → Option (List (String × Json.Outline))
  | .record members => (Json.Outline.keyed? members).map (known keys)
  | .list items => if items.length ≤ keys.length then some (keys.zip items) else none
  | .leaf _ => none

def jsonSource : Source Json.Outline where
  text? := Json.Outline.text?
  optionalText? o := o.value.bind fun v => if v.isNull then some none else v.string?.map some
  flag? o := match o.value with
    | some (.bool b) => some b
    | _ => none
  name? := jsonName?
  members? := jsonMembers?

/-! ## TOML -/

/-- Whether a value has nothing in it. -/
def isEmptyToml : Toml.Value → Bool
  | .table _ [] | .array [] => true
  | _ => false

def tomlName? : Toml.Value → Option String
  | .string s => some s
  | .table _ [(name, v)] => if isEmptyToml v then some name else none
  | _ => none

def tomlMembers? (keys : List String) : Toml.Value → Option (List (String × Toml.Value))
  | .table _ fields => some (known keys fields)
  | .array items => some (keys.zip items)
  | .tables elements => some (keys.zip (elements.map (.table .header)))
  | _ => none

def tomlText? : Toml.Value → Option String
  | .string s => some s
  | _ => none

def tomlSource : Source Toml.Value where
  text? := tomlText?
  optionalText? v := (tomlText? v).map some
  flag? v := match v with
    | .boolean b => some b
    | _ => none
  name? := tomlName?
  members? := tomlMembers?

/-! ## YAML -/

/-- A node without its anchor; an alias is followed. -/
def follow? (root : Yaml.Node) : Yaml.Node → Option Yaml.Node
  | .reference id => root.find? id
  | .anchored _ node => some node
  | node => some node

/-- The text of a scalar, whatever it looks like. -/
def yamlText? (root node : Yaml.Node) : Option String :=
  match follow? root node with
  | some (.scalar _ _ text) => some text
  | _ => none

def yamlOptionalText? (root node : Yaml.Node) : Option (Option String) :=
  match follow? root node with
  | some (.scalar tag .plain text) =>
    if tag == some "tag:yaml.org,2002:null" then
      if Yaml.Plain.isNull text then some none else none
    else if tag.isNone && (text.isEmpty || Yaml.Plain.isNull text) then some none
    else some (some text)
  | some (.scalar _ _ text) => some (some text)
  | _ => none

def yamlFlag? (root node : Yaml.Node) : Option Bool :=
  match follow? root node with
  | some (.scalar _ .plain text) => Yaml.Plain.bool? text
  | some (.scalar tag .literal text) =>
    if tag == some "tag:yaml.org,2002:bool" then Yaml.Plain.bool? text else none
  | _ => none

/-- A name: the text of a scalar, or the local tag of a scalar that says nothing. -/
def yamlName? (root node : Yaml.Node) : Option String :=
  match follow? root node with
  | some (.scalar tag style text) =>
    match Yaml.Value.localTag? tag with
    | some name =>
      if style == .plain && (text.isEmpty || Yaml.Plain.isNull text) then some name else none
    | none => some text
  | _ => none

def yamlMembers? (root : Yaml.Node) (keys : List String) (node : Yaml.Node) :
    Option (List (String × Yaml.Node)) :=
  match follow? root node with
  | some (.mapping _ entries) =>
    (entries.mapM fun e => (yamlText? root e.1).map fun key => (key, e.2)).map (known keys)
  | some (.scalar _ .plain "") => some []
  | _ => none

def yamlSource (root : Yaml.Node) : Source Yaml.Node where
  text? := yamlText? root
  optionalText? := yamlOptionalText? root
  flag? := yamlFlag? root
  name? := yamlName? root
  members? := yamlMembers? root

/-! ## Files -/

/-- The settings that a text in a format holds. -/
def parse? (format : FileFormat) (content : String) : Option Settings :=
  match format with
  | .json => do jsonSource.settings? (← Json.Outline.ofBytes? (Text.Utf8.encode content))
  | .toml => do tomlSource.settings? (.table .header (← Toml.parse? content))
  | .yaml => do
    match (← Yaml.Document.parse? content).root with
    | none => some standard
    | some root => (yamlSource root).settings? root

/-- The settings of a file, whose content is missing if it cannot be read. -/
def ofFile (path : String) (content : Option String) : Except Fault Settings := do
  let format ← FileFormat.ofPath path
  match content with
  | none => .error (.unreadable path)
  | some content => match parse? format content with
    | some s => .ok s
    | none => .error (.malformed path)

/-- The files that settings are looked for in, the first one first. -/
def standardFiles (folder : Option String) : List String :=
  ["reshape.toml", ".reshape.toml", ".reshape.yaml", ".reshape.json"] ++
    (match folder with
      | some folder => [folder ++ "/reshape/config.toml", folder ++ "/reshape/config.yaml"]
      | none => [])

end Recast.Settings
