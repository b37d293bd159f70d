import Recast.Schema.File
import Recast.Settings.Basic
import Recast.Transform.Error

/-!
# Failures of commands

Every cause of a failure has its exit status, so that a rejected document can be told from a broken
schema or a missing file. Transforms that break off end the command with statuses of their own.
-/

namespace Recast.Command

/-- What is wrong with arguments that a command accepts. -/
inductive ArgumentProblem where
  | noRuleSet
  | unknownRuleSet (schema ruleSet : String)
deriving DecidableEq, Repr

def ArgumentProblem.message : ArgumentProblem → String
  | noRuleSet => "no rule set given; pass --rule-set or set rule_set in the config"
  | unknownRuleSet schema ruleSet =>
    "schema " ++ schema ++ " declares no rule set '" ++ ruleSet ++ "'"

inductive Failure where
  | storage (trouble : Storage.Trouble)
  | transform (e : Error)
  | schemaFile (fault : Schema.FileFault)
  | fileNotFound (path : String)
  | settings (fault : Settings.Fault)
  | arguments (problem : ArgumentProblem)
  | json (fault : Json.Fault)

namespace Failure

def message : Failure → String
  | storage trouble => "IO error: " ++ trouble.message
  | transform e => e.message
  | schemaFile fault => fault.message
  | fileNotFound path => "File not found: " ++ path
  | settings fault => "Configuration error: " ++ fault.message
  | arguments problem => "Invalid arguments: " ++ problem.message
  | json fault => "JSON error: " ++ fault.message

def exit : Failure → Nat
  | storage _ => 1
  | transform (.validation _) => 2
  | transform (.input _) => 3
  | transform .overflow => 101
  | transform .endless => 134
  | transform e => if e.isConstruction then 4 else 5
  | schemaFile _ => 4
  | fileNotFound _ => 6
  | settings _ => 7
  | arguments _ => 8
  | json _ => 9

/-- Whether a hint at the help follows. -/
def hintsAtHelp : Failure → Bool
  | arguments _ => true
  | _ => false

/-- Whether a cause follows. -/
def hasCause : Failure → Bool
  | settings fault => fault.hasCause
  | _ => false

end Failure

end Recast.Command
