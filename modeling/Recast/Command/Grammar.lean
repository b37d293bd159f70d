import Recast.Text.Basic

/-!
# Grammars of command lines

A command takes options, at most one positional argument and a subcommand. An argument shows by its
dashes what it is.
-/

namespace Recast.Command

/-- What is wrong with a command line, or what it asks for instead of a command. -/
inductive Usage where
  | help
  | version
  | nothingGiven
  | missingSubcommand
  | unknownSubcommand
  | unknownArgument
  | invalidValue
  | tooManyValues
  | conflict
  | missingArgument
deriving DecidableEq, Repr

def Usage.message : Usage → String
  | help => "Usage: reshape [OPTIONS] <transform|check|config> [ARGUMENTS]"
  | version => "reshape"
  | nothingGiven => "Usage: reshape [OPTIONS] <transform|check|config> [ARGUMENTS]"
  | missingSubcommand => "error: a subcommand is missing"
  | unknownSubcommand => "error: there is no such subcommand"
  | unknownArgument => "error: an argument is not expected"
  | invalidValue => "error: an option has no value or an invalid one"
  | tooManyValues => "error: an option takes no value"
  | conflict => "error: arguments cannot be used together"
  | missingArgument => "error: a required argument is missing"

/-- Asking for help is no failure. -/
def Usage.exit : Usage → Nat
  | help | version => 0
  | _ => 2

/-- What an argument does. -/
inductive Purpose where
  /-- A mark that may be given more than once. -/
  | counted
  | mark
  /-- Takes a value that passes a test. -/
  | value (accepts : String → Bool)
  | help
  | version

structure Argument where
  name : String
  letter : Option Char
  purpose : Purpose
  isRequired : Bool
  /-- The variable that gives a value if the command line does not. -/
  fallback : Option String

namespace Argument

def mark (name : String) (letter : Option Char) : Argument := ⟨name, letter, .mark, false, none⟩

def value (name : String) (letter : Option Char) (accepts : String → Bool) : Argument :=
  ⟨name, letter, .value accepts, false, none⟩

def takesValue (a : Argument) : Bool :=
  match a.purpose with
  | .value _ => true
  | _ => false

end Argument

inductive Grammar where
  | mk (name : String) (options : List Argument) (positional : Option Argument)
    (subcommands : List Grammar)

namespace Grammar

def name : Grammar → String
  | mk name _ _ _ => name

def subcommands : Grammar → List Grammar
  | mk _ _ _ subcommands => subcommands

def positional : Grammar → Option Argument
  | mk _ _ positional _ => positional

/-- Every command can be asked for help and for its version. -/
def options : Grammar → List Argument
  | mk _ options _ _ =>
    options ++
      [⟨"help", some 'h', .help, false, none⟩, ⟨"version", some 'V', .version, false, none⟩]

def long? (g : Grammar) (name : String) : Option Argument := g.options.find? fun a => a.name == name

def short? (g : Grammar) (letter : Char) : Option Argument :=
  g.options.find? fun a => a.letter == some letter

def needsSubcommand (g : Grammar) : Bool := !g.subcommands.isEmpty

/-- The command that explains the others. -/
def explainer : Grammar := mk "help" [] none []

/-- The subcommand of a name. A command with subcommands can explain them. -/
def subcommand? (g : Grammar) (name : String) : Option Grammar :=
  if g.needsSubcommand then (g.subcommands ++ [explainer]).find? fun s => s.name == name else none

/-- What follows from asking for the help of a chain of commands. -/
def explain (g : Grammar) : List String → Usage
  | [] => .help
  | name :: rest => match g.subcommand? name with
    | some s => explain s rest
    | none => .unknownSubcommand

end Grammar

/-- The form of an argument. -/
inductive Form where
  /-- Two dashes: what follows is positional. -/
  | divider
  | long (name : String) (value : Option String)
  | short (letters : List Char)
  | plain
deriving DecidableEq, Repr

def Form.of (s : String) : Form :=
  match s.toList with
  | ['-', '-'] => divider
  | '-' :: '-' :: cs => match Text.cutAt? '=' cs with
    | some (name, value) => long (String.ofList name) (some (String.ofList value))
    | none => long (String.ofList cs) none
  | '-' :: c :: cs => short (c :: cs)
  | _ => plain

end Recast.Command
