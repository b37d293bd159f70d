import Recast.Operation.Basic

/-!
# Reading operations

A declaration has a `type` and `args`, which are strings by name. `Operation.build` checks that the
arguments are those that the kind needs and reads them.
-/

namespace Recast.Operation

open Json (Value Mismatch)
open Json.Decode (Shape needed)

/-- The declaration of an operation. -/
structure Declaration where
  kind : String
  arguments : List (String × String)
deriving DecidableEq, Repr

namespace Declaration

structure Draft where
  kind : Option String := none
  arguments : Option (List (String × String)) := none

def shape : Shape := ⟨"OperationSpec", [("type", true), ("args", false)], false⟩

def readMember (d : Draft) (key : String) (v : Value) : Except Mismatch Draft :=
  match key with
  | "type" => do .ok { d with kind := some (← Json.Decode.string v) }
  | _ => do .ok { d with arguments := some (← Json.Decode.strings v) }

def decode (v : Value) : Except Mismatch Declaration := do
  let d ← shape.decode readMember {} v
  .ok ⟨← needed "type" d.kind, d.arguments.getD []⟩

end Declaration

/-- The arguments that each kind needs. -/
def argumentNames : List (String × List String) := [
  ("changeCase", ["to"]),
  ("inverse", []),
  ("duration", []),
  ("max", ["by", "return"]),
  ("replace", ["regex", "new"]),
  ("split", ["on"]),
  ("timeParse", ["format", "layout"]),
  ("stringToInteger", []),
  ("toCamelCase", []),
  ("trim", []),
  ("join", ["on"])]

/-- Which names are missing, in the order of the kind's list, and which are too many, in order. -/
def checkNames (required given : List String) : Option ArgumentProblem :=
  let missing := required.filter fun n => !given.contains n
  let unexpected := (given.filter fun n => !required.contains n).mergeSort fun a b => a ≤ b
  if missing.isEmpty && unexpected.isEmpty then none else some (.names missing unexpected)

def readPath (argument text : String) : Except ArgumentProblem Path :=
  match Path.parse text with
  | .ok p => .ok p
  | .error fault => .error (.badPath argument fault)

def checkLayout (argument layout : String) : Except ArgumentProblem Unit :=
  if Calendar.Layout.isValid layout then .ok () else .error (.badLayout argument layout)

/-- The operation of a known kind whose arguments have the right names. -/
def ofArguments (kind : String) (argument : String → String) : Except ArgumentProblem Operation :=
  match kind with
  | "changeCase" =>
    match argument "to" with
    | "upper" => .ok (.changeCase .upper)
    | "lower" => .ok (.changeCase .lower)
    | other => .error (.badCase other)
  | "inverse" => .ok .inverse
  | "duration" => .ok .duration
  | "max" => do
    .ok (.max (← readPath "by" (argument "by")) (← readPath "return" (argument "return")))
  | "replace" =>
    match Pattern.compile? (argument "regex") with
    | some pattern => .ok (.replace pattern (argument "new"))
    | none => .error .badPattern
  | "split" =>
    if (argument "on").isEmpty then .error .emptySeparator else .ok (.split (argument "on"))
  | "join" => .ok (.join (argument "on"))
  | "timeParse" => do
    checkLayout "format" (argument "format")
    checkLayout "layout" (argument "layout")
    .ok (.timeParse (argument "format") (argument "layout"))
  | "stringToInteger" => .ok .stringToInteger
  | "toCamelCase" => .ok .toCamelCase
  | _ => .ok .trim

/-- The operation of a declaration. -/
def build (d : Declaration) : Except Error Operation :=
  match argumentNames.lookup d.kind with
  | none => .error (.unknown d.kind)
  | some required =>
    match checkNames required (d.arguments.map (·.1)) with
    | some problem => .error (.badArguments d.kind problem)
    | none =>
      match ofArguments d.kind fun name => (d.arguments.lookup name).getD "" with
      | .ok operation => .ok operation
      | .error problem => .error (.badArguments d.kind problem)

end Recast.Operation
