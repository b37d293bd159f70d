import Recast.Command.Level
import Recast.Settings.Reader

/-!
# Commands

There are commands that transform a document, check a schema, write a file of settings and show the
settings. Some options count on every level.
-/

namespace Recast.Command

structure TransformArguments where
  schema : String
  ruleSet : Option String
  format : Option FormatChoice
  skipsValidation : Bool
  pretty : Bool
  /-- The file that is written instead of the standard output. -/
  output : Option String
  input : String
deriving DecidableEq, Repr

structure CheckArguments where
  schema : String
  ruleSet : Option String
  isDetailed : Bool
deriving DecidableEq, Repr

/-- What a command line asks for. -/
inductive Action where
  | transform (a : TransformArguments)
  | check (a : CheckArguments)
  /-- Writes standard settings. -/
  | initSettings (path : String) (isForced : Bool)
  | showSettings (format : Settings.FileFormat)
deriving DecidableEq, Repr

structure Invocation where
  action : Action
  settingsFile : Option String
  isQuiet : Bool
  /-- How often more output was asked for, quiet or not. -/
  verbose : Nat
deriving DecidableEq, Repr

/-! ## Grammar -/

/-- The name of a file. -/
def acceptsPath (s : String) : Bool := !s.isEmpty

def globals : List Argument := [
  ⟨"verbose", some 'v', .counted, false, none⟩,
  .mark "quiet" (some 'q'),
  { Argument.value "config" (some 'c') acceptsPath with fallback := some "RESHAPE_CONFIG" },
  .mark "no-color" none]

def conflicts : List (String × String) := [("quiet", "verbose")]

def schemaArgument : Argument :=
  { Argument.value "schema" (some 's') acceptsPath with isRequired := true }

def ruleSetArgument : Argument := .value "rule-set" (some 'r') fun _ => true

def transformGrammar : Grammar :=
  .mk "transform"
    ([schemaArgument, ruleSetArgument,
      .value "format" (some 'f') fun s => (FormatChoice.ofName? s).isSome,
      .mark "no-validate" none, .mark "pretty" none,
      .value "output" (some 'o') acceptsPath] ++ globals)
    (some (.value "INPUT" none acceptsPath)) []

def checkGrammar : Grammar :=
  .mk "check" ([schemaArgument, ruleSetArgument, .mark "detailed" none] ++ globals) none []

def initGrammar : Grammar :=
  .mk "init" (.mark "force" none :: globals) (some (.value "PATH" none acceptsPath)) []

def showGrammar : Grammar :=
  .mk "show"
    (.value "format" (some 'f') (fun s => (Settings.FileFormat.ofName? s).isSome) :: globals) none []

def settingsGrammar : Grammar := .mk "config" globals none [initGrammar, showGrammar]

def grammar : Grammar :=
  .mk "reshape" globals none [transformGrammar, checkGrammar, settingsGrammar]

/-! ## Reading -/

def transformArguments (l : Level) (schema : String) : TransformArguments where
  schema
  ruleSet := l.value? "rule-set"
  format := (l.value? "format").bind FormatChoice.ofName?
  skipsValidation := l.has "no-validate"
  pretty := l.has "pretty"
  output := l.value? "output"
  input := (l.value? "INPUT").getD "-"

def checkArguments (l : Level) (schema : String) : CheckArguments where
  schema
  ruleSet := l.value? "rule-set"
  isDetailed := l.has "detailed"

/-- The action that levels ask for. -/
def Action.ofLevels : List Level → Except Usage Action
  | [_, l] =>
    match l.value? "schema" with
    | none => .error .missingArgument
    | some schema =>
      if l.name == "transform" then .ok (.transform (transformArguments l schema))
      else .ok (.check (checkArguments l schema))
  | [_, _, l] =>
    if l.name == "init" then
      .ok (.initSettings ((l.value? "PATH").getD "reshape.toml") (l.has "force"))
    else .ok (.showSettings (((l.value? "format").bind Settings.FileFormat.ofName?).getD .toml))
  | _ => .error .missingSubcommand

namespace Invocation

/-- Marks that are counted stop here. -/
def mostVerbose : Nat := 255

/-- Reads a command line. -/
def read (e : Settings.Environment) (arguments : List String) : Except Usage Invocation := do
  let levels ← readLevels e conflicts grammar false (Level.empty grammar.name) arguments
  let action ← Action.ofLevels levels
  let at_ (name : String) := prevailing name levels
  .ok {
    action
    settingsFile := (at_ "config").bind fun l => l.value? "config"
    isQuiet := (at_ "quiet").any fun l => l.has "quiet"
    verbose := min mostVerbose (((at_ "verbose").map fun l => l.count "verbose").getD 0) }

/-- How much output is asked for: nothing more by a quiet command. -/
def verbosity (i : Invocation) : Nat := if i.isQuiet then 0 else i.verbose

end Invocation

end Recast.Command
