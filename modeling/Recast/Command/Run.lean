import Recast.Command.Failure
import Recast.Command.Invocation
import Recast.Command.Surroundings
import Recast.Json.Printer
import Recast.Settings.Printer
import Recast.Transform.Transformer

/-!
# Running commands

A command prints its document or report when nothing can fail any more. Remarks may come before
that.
-/

namespace Recast.Command

open Schema (Instance Descriptor)
open Surroundings

variable {m : Type → Type} [Monad m] [Surroundings m]

/-- Goes on with a result, or fails. -/
def orFail (failed : ε → Failure) : Except ε α → ExceptT Failure m α
  | .ok a => pure a
  | .error e => throw (failed e)

/-- A remark that a quiet command leaves out. -/
def report (isQuiet : Bool) (s : String) : ExceptT Failure m Unit :=
  if isQuiet then pure () else remark (s ++ "\n")

def warn (s : String) : ExceptT Failure m Unit := remark ("WARNING: " ++ s ++ "\n")

def printLine (s : String) : ExceptT Failure m Unit := print (s ++ "\n")

/-- Fails if a file is missing. -/
def needFile (path : String) : ExceptT Failure m Unit := do
  if !(← contains path) then throw (.fileNotFound path)

def loadSchema (path : String) : ExceptT Failure m Json.Value := do
  needFile path
  orFail .schemaFile (Schema.readFile path (← readText path))

def readInput (path : String) : ExceptT Failure m (List UInt8) := do
  if Storage.Location.isStandardInput path then input
  else
    needFile path
    orFail .storage (← readBytes path)

/-! ## Transforming -/

/-- Sets a document in lines. -/
def prettyDocument (document : String) : Except Json.Fault String :=
  (Json.parse document).map Json.indented

namespace TransformArguments

/-- The rule set that is asked for, in the arguments or else in the settings. -/
def wantedRuleSet (a : TransformArguments) (s : Settings) : Except ArgumentProblem String :=
  match a.ruleSet <|> s.ruleSet with
  | some ruleSet => .ok ruleSet
  | none => .error .noRuleSet

/-- A transformer with the format and the gate that are asked for. -/
def prepare (a : TransformArguments) (s : Settings) (t : Transformer) : Transformer :=
  { t with
    format := (a.format.getD s.transform.format).format?
    gate := if a.skipsValidation || !s.transform.validate then .acceptAll else t.gate }

/-- A document set as it is asked for. -/
def layOut (a : TransformArguments) (s : Settings) (document : String) : Except Json.Fault String :=
  if a.pretty || s.transform.pretty then prettyDocument document else .ok document

end TransformArguments

/-- Hands out a document. -/
def deliver (output : Option String) (isQuiet : Bool) (document : String) :
    ExceptT Failure m Unit :=
  match output with
  | some path => do
    orFail .storage (← write path document)
    report isQuiet ("✓ Wrote " ++ path)
  | none => printLine document

def transform (a : TransformArguments) (s : Settings) (isQuiet : Bool) :
    ExceptT Failure m Unit := do
  let ruleSet ← orFail .arguments (a.wantedRuleSet s)
  let schema ← loadSchema a.schema
  let transformer ← orFail .transform (Transformer.ofSchema schema ruleSet)
  if !transformer.descriptor.ruleSets.contains ruleSet then
    warn ("Schema " ++ a.schema ++ " declares no rules for rule set '" ++ ruleSet ++ "'")
  let raw ← readInput a.input
  let document ← orFail .transform ((a.prepare s transformer).transform raw)
  deliver a.output isQuiet (← orFail .json (a.layOut s document))

/-! ## Checking -/

/-- The name of a method in a report. -/
def title : Schema.Method → String
  | .first => "First"
  | .last => "Last"
  | .concatenate => "Concatenate"

/-- The ways to a value of an instance, the first one first. -/
def tiers (i : Instance) (ruleSet : Option String) : List String :=
  (match ruleSet with
    | some ruleSet => match i.rule? ruleSet with
      | some rule =>
        ["rule(" ++ toString rule.sources.length ++ " sources, " ++ title rule.method ++ ")"]
      | none => []
    | none => i.ruleSets.map fun name => "rule:" ++ name) ++
  (if i.kind == .object then [] else ["copy"]) ++
  (if i.declared.default.isSome then ["default"] else [])

def describe (i : Instance) (ruleSet : Option String) : String :=
  i.path ++ "  " ++ i.kind.name ++ "  " ++ Text.joinWith " > " (tiers i ruleSet)

def check (a : CheckArguments) (isQuiet : Bool) : ExceptT Failure m Unit := do
  let schema ← loadSchema a.schema
  let descriptor ← orFail (.transform ∘ .schema) (Descriptor.read schema)
  let ruleSets := descriptor.ruleSets
  match a.ruleSet with
  | some ruleSet =>
    if !ruleSets.contains ruleSet then throw (.arguments (.unknownRuleSet a.schema ruleSet))
  | none => pure ()
  let _ ← orFail .transform (Transformer.ofDescriptor descriptor (a.ruleSet.getD ""))
  report isQuiet ("✓ Schema " ++ a.schema ++ " is valid")
  printLine ("instances: " ++ toString descriptor.instances.length)
  printLine ("rule sets: " ++
    if ruleSets.isEmpty then "(none)" else Text.joinWith ", " ruleSets)
  if a.isDetailed then
    descriptor.instances.forM fun i => printLine (describe i a.ruleSet)

/-! ## Settings -/

def initSettings (path : String) (isForced isQuiet : Bool) : ExceptT Failure m Unit := do
  if (← contains path) && !isForced then
    warn ("Config already exists at " ++ path ++ " (use --force to overwrite)")
  else
    let format ← orFail .settings (Settings.FileFormat.ofPath path)
    orFail .storage (← makeParent path)
    orFail .storage (← write path (Settings.standard.write format))
    report isQuiet ("✓ Created config at " ++ path)

def showSettings (format : Settings.FileFormat) (s : Settings) : ExceptT Failure m Unit :=
  printLine (String.ofList (Text.trimEnd (s.write format).toList))

/-- The settings of a file. -/
def readSettings (path : String) : ExceptT Failure m Settings := do
  orFail .settings (Settings.ofFile path (← readText path).toOption)

/-- The settings of the first file that is there. -/
def findSettings : List String → ExceptT Failure m Settings
  | [] => pure Settings.standard
  | path :: rest => do
    if ← contains path then readSettings path else findSettings rest

/-- The settings that count: those of a file, changed by the environment. -/
def effectiveSettings (e : Settings.Environment) (userFolder file : Option String) :
    ExceptT Failure m Settings := do
  let s ← match file with
    | some path => readSettings path
    | none => findSettings (Settings.standardFiles userFolder)
  orFail .settings (s.overridden e)

/-! ## Invocations -/

def Action.run (s : Settings) (isQuiet : Bool) : Action → ExceptT Failure m Unit
  | transform a => Command.transform a s isQuiet
  | check a => Command.check a isQuiet
  | initSettings path isForced => Command.initSettings path isForced isQuiet
  | showSettings format => Command.showSettings format s

/-- Runs the action of a command line with the settings that count. -/
def Invocation.run (e : Settings.Environment) (userFolder : Option String) (i : Invocation) :
    ExceptT Failure m Unit := do
  i.action.run (← effectiveSettings e userFolder i.settingsFile) i.isQuiet

/-- Runs a command line at a desk. -/
def Desk.run (e : Settings.Environment) (userFolder : Option String) (i : Invocation) :
    Desk → Except Failure Unit × Desk :=
  i.run (m := StateM Desk) e userFolder

end Recast.Command
