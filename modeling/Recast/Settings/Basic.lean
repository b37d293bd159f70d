import Recast.Input.Format
import Recast.Text.Case

/-!
# Settings

What transforms and logs do unless the command line says otherwise. Variables of the environment
come before the settings of a file.
-/

namespace Recast

/-- The format of input: detected, or one of two. -/
inductive FormatChoice where
  | auto
  | json
  | xml
deriving DecidableEq, Repr

namespace FormatChoice

def name : FormatChoice → String
  | auto => "auto"
  | json => "json"
  | xml => "xml"

def all : List FormatChoice := [auto, json, xml]

def ofName? (s : String) : Option FormatChoice := all.find? fun c => c.name == s

/-- The format, unless it is to be detected. -/
def format? : FormatChoice → Option Input.Format
  | auto => none
  | json => some .json
  | xml => some .markup

end FormatChoice

inductive LogFormat where
  | compact
  | full
  | json
deriving DecidableEq, Repr

namespace LogFormat

def name : LogFormat → String
  | compact => "compact"
  | full => "full"
  | json => "json"

def all : List LogFormat := [compact, full, json]

def ofName? (s : String) : Option LogFormat := all.find? fun f => f.name == s

end LogFormat

structure TransformSettings where
  format : FormatChoice
  pretty : Bool
  validate : Bool
deriving DecidableEq, Repr

structure LogSettings where
  level : String
  format : LogFormat
deriving DecidableEq, Repr

structure Settings where
  /-- The rule set of transforms that name none. -/
  ruleSet : Option String
  transform : TransformSettings
  logging : LogSettings
deriving DecidableEq, Repr

namespace Settings

def standard : Settings := ⟨none, ⟨.auto, false, true⟩, ⟨"warn", .compact⟩⟩

/-! ## Environment -/

/-- The variables of an environment. -/
abbrev Environment := List (String × String)

/-- Why settings cannot be had. -/
inductive Fault where
  | badFormat (value : String)
  | badFlag (key value : String)
  | unsupportedFile (path : String)
  | unreadable (path : String)
  | malformed (path : String)
deriving DecidableEq, Repr

namespace Fault

def message : Fault → String
  | badFormat value => "RESHAPE_FORMAT must be auto, json or xml, got '" ++ value ++ "'"
  | badFlag key value => key ++ " must be a boolean, got '" ++ value ++ "'"
  | unsupportedFile path =>
    "Unsupported config file '" ++ path ++ "'. Expected .toml, .yaml, .yml or .json"
  | unreadable path => "Failed to read " ++ path
  | malformed path => "Failed to parse " ++ path

/-- Whether another fault is the cause. -/
def hasCause : Fault → Bool
  | unreadable _ | malformed _ => true
  | _ => false

end Fault

/-- A truth value in one of several words, in any case. -/
def flag? (s : String) : Option Bool :=
  let word := Text.lowered s
  if ["1", "true", "yes", "on"].contains word then some true
  else if ["0", "false", "no", "off"].contains word then some false
  else none

def flag (key value : String) : Except Fault Bool :=
  match flag? value with
  | some b => .ok b
  | none => .error (.badFlag key value)

/-- A variable and what its value changes. -/
abbrev Override := String × (String → Settings → Except Fault Settings)

/-- The variables that change settings, in the order in which they are looked up. -/
def overrides : List Override := [
  ("RESHAPE_RULE_SET", fun v s => .ok { s with ruleSet := some v }),
  ("RESHAPE_FORMAT", fun v s =>
    match FormatChoice.ofName? (Text.lowered v) with
    | some format => .ok { s with transform := { s.transform with format } }
    | none => .error (.badFormat v)),
  ("RESHAPE_PRETTY", fun v s => do
    let pretty ← flag "RESHAPE_PRETTY" v
    .ok { s with transform := { s.transform with pretty } }),
  ("RESHAPE_VALIDATE", fun v s => do
    let validate ← flag "RESHAPE_VALIDATE" v
    .ok { s with transform := { s.transform with validate } }),
  ("RESHAPE_LOG_LEVEL", fun v s => .ok { s with logging := { s.logging with level := v } })]

/-- Applies overrides up to the first fault. -/
def applyAll (e : Environment) : List Override → Settings → Settings × Option Fault
  | [], s => (s, none)
  | (key, change) :: rest, s =>
    match e.lookup key with
    | none => applyAll e rest s
    | some v => match change v s with
      | .ok s => applyAll e rest s
      | .error fault => (s, some fault)

/-- The settings that an environment makes of others, and the fault that stopped it. -/
def withEnvironment (s : Settings) (e : Environment) : Settings × Option Fault :=
  applyAll e overrides s

/-- The settings that an environment makes of others, if it does not stop. -/
def overridden (s : Settings) (e : Environment) : Except Fault Settings :=
  match s.withEnvironment e with
  | (s, none) => .ok s
  | (_, some fault) => .error fault

end Settings

end Recast
