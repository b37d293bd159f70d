import Recast.Json.Printer
import Recast.Settings.Reader
import Recast.Toml.Printer
import Recast.Yaml.Printer

/-!
# Writing settings

Settings are written with all their members, except that TOML has no way to write a missing rule
set.
-/

namespace Recast.Settings

def flagText (b : Bool) : String := if b then "true" else "false"

/-! ## TOML -/

def tomlLine (key value : String) : String := key ++ " = " ++ value ++ "\n"

def toToml (s : Settings) : String :=
  let ruleSet := match s.ruleSet with
    | some name => tomlLine "rule_set" (Toml.quoted name) ++ "\n"
    | none => ""
  ruleSet ++ "[transform]\n" ++
    tomlLine "format" (Toml.quoted s.transform.format.name) ++
    tomlLine "pretty" (flagText s.transform.pretty) ++
    tomlLine "validate" (flagText s.transform.validate) ++
    "\n[logging]\n" ++
    tomlLine "level" (Toml.quoted s.logging.level) ++
    tomlLine "format" (Toml.quoted s.logging.format.name)

/-! ## YAML -/

def toYaml (s : Settings) : String :=
  let ruleSet := match s.ruleSet with
    | some name => Yaml.stringLine 0 "rule_set" name
    | none => "rule_set: null\n"
  ruleSet ++ "transform:\n" ++
    Yaml.stringLine 2 "format" s.transform.format.name ++
    "  pretty: " ++ flagText s.transform.pretty ++ "\n" ++
    "  validate: " ++ flagText s.transform.validate ++ "\n" ++
    "logging:\n" ++
    Yaml.stringLine 2 "level" s.logging.level ++
    Yaml.stringLine 2 "format" s.logging.format.name

/-! ## JSON -/

def toValue (s : Settings) : Json.Value :=
  .object [
    ("rule_set", match s.ruleSet with
      | some name => .string name
      | none => .null),
    ("transform", .object [
      ("format", .string s.transform.format.name),
      ("pretty", .bool s.transform.pretty),
      ("validate", .bool s.transform.validate)]),
    ("logging", .object [
      ("level", .string s.logging.level),
      ("format", .string s.logging.format.name)])]

/-- The settings in a format. -/
def write (s : Settings) : FileFormat → String
  | .toml => s.toToml
  | .yaml => s.toYaml
  | .json => Json.indented s.toValue

end Recast.Settings
