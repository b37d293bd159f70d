import Recast.Calendar.Layout
import Recast.Json.Decode
import Recast.Path.Printer
import Recast.Path.Reader
import Recast.Pattern.Match

/-!
# Operations

An operation makes one JSON value of another. It is declared by a kind and by arguments, and every
kind needs certain arguments.
-/

namespace Recast

inductive Operation.Case where
  | upper
  | lower
deriving DecidableEq, Repr

inductive Operation where
  | changeCase (target : Operation.Case)
  | inverse
  | duration
  /-- Of the element that is greatest by one path, what another path finds. -/
  | max (by_ result : Path)
  | replace (pattern : Pattern.Compiled) (new : String)
  | split (on : String)
  | timeParse (format layout : String)
  | stringToInteger
  | toCamelCase
  | trim
  | join (on : String)

namespace Operation

def name : Operation → String
  | changeCase _ => "changeCase"
  | inverse => "inverse"
  | duration => "duration"
  | max .. => "max"
  | replace .. => "replace"
  | split _ => "split"
  | timeParse .. => "timeParse"
  | stringToInteger => "stringToInteger"
  | toCamelCase => "toCamelCase"
  | trim => "trim"
  | join _ => "join"

/-! ## Errors -/

/-- What is wrong with the arguments of an operation. -/
inductive ArgumentProblem where
  | names (missing unexpected : List String)
  | badCase (target : String)
  | badPath (argument : String) (fault : Path.Fault)
  | badPattern
  | emptySeparator
  | badLayout (argument layout : String)

/-- Why an operation has no result for a value of the right kind. -/
inductive Failure where
  | notWholeSeconds (n : Json.Number)
  | malformedDuration (text : String)
  | notNumeric (path : Path)
  | missingResult (path : Path)
  | formatMismatch (text format : String)
  | cannotRender (text layout : String)
  | notInteger (text : String)

inductive Error where
  | unknown (kind : String)
  | badArguments (kind : String) (problem : ArgumentProblem)
  | badInput (expected found : String)
  | failed (failure : Failure)

def ArgumentProblem.message : ArgumentProblem → String
  | names missing unexpected =>
    let part (word : String) (names : List String) : List String :=
      if names.isEmpty then [] else [word ++ " " ++ Text.joinWith ", " names]
    Text.joinWith "; " (part "missing" missing ++ part "unexpected" unexpected)
  | badCase target => "'to' must be upper or lower, got '" ++ target ++ "'"
  | badPath argument fault => "'" ++ argument ++ "' is not a valid path: " ++ fault.message
  | badPattern => "regex parse error:"
  | emptySeparator => "'on' must not be empty"
  | badLayout argument layout =>
    "'" ++ argument ++ "': invalid strftime layout '" ++ layout ++ "'"

def Failure.message : Failure → String
  | notWholeSeconds n => "'" ++ n.text ++ "' is not a whole number of seconds"
  | malformedDuration text => "malformed duration '" ++ text ++ "'"
  | notNumeric path => "'" ++ path.text ++ "' is not numeric on every element"
  | missingResult path => "'" ++ path.text ++ "' is missing on the selected element"
  | formatMismatch text format => "'" ++ text ++ "' does not match format '" ++ format ++ "'"
  | cannotRender text layout => "cannot render '" ++ text ++ "' with layout '" ++ layout ++ "'"
  | notInteger text => "'" ++ text ++ "' is not a decimal integer"

def Error.message : Error → String
  | unknown kind => "unknown operation '" ++ kind ++ "'"
  | badArguments kind problem => "invalid arguments for '" ++ kind ++ "': " ++ problem.message
  | badInput expected found => "expected " ++ expected ++ ", found " ++ found
  | failed failure => failure.message

/-- A value of the wrong kind. -/
def wrongKind (expected : String) (v : Json.Value) : Error := .badInput expected v.kindName

end Operation

end Recast
