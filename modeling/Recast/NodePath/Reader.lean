import Recast.NodePath.Basic
import Recast.Number.Reader

/-!
# Reading node paths

`parse` reads a node path from text without its surrounding blanks. Steps are cut at slashes outside
brackets and quotes.
-/

namespace Recast.NodePath

/-! ## Problems -/

inductive Problem where
  | empty
  | unbalanced
  | emptyStep
  | parentStep
  | badStep (step : String)
  | trailingSlash
  | badPredicate
  | positionZero
  | unsupportedPredicate (body : String)
  | unquotedValue
deriving DecidableEq, Repr

def Problem.message : Problem → String
  | empty => "empty node path"
  | unbalanced => "unbalanced brackets or quotes"
  | emptyStep => "empty location step"
  | parentStep => "parent steps are not supported"
  | badStep step => "invalid location step '" ++ step ++ "'"
  | trailingSlash => "trailing '/'"
  | badPredicate => "malformed predicate"
  | positionZero => "positions start at 1"
  | unsupportedPredicate body => "unsupported predicate '" ++ body ++ "'"
  | unquotedValue => "predicate value must be quoted"

/-- Why a text is no node path: the problem and the text. -/
structure Fault where
  problem : Problem
  source : String
deriving DecidableEq, Repr

def Fault.message (f : Fault) : String :=
  "Invalid node path '" ++ f.source ++ "': " ++ f.problem.message

/-! ## Cutting -/

/-- The text of the first step and the text from the slash after it on; `depth` counts open brackets
and `quote` is the quote that is open. Nothing if brackets or quotes do not match. -/
def cutStep? : (depth : Nat) → (quote : Option Char) → List Char → Option (List Char × List Char)
  | depth, quote, [] => if depth == 0 && quote.isNone then some ([], []) else none
  | depth, some q, c :: s =>
    (cutStep? depth (if c == q then none else some q) s).map fun (a, b) => (c :: a, b)
  | depth, none, c :: s =>
    if c == '/' && depth == 0 then some ([], c :: s)
    else if c == ']' && depth == 0 then none
    else
      let depth := if c == '[' then depth + 1 else if c == ']' then depth - 1 else depth
      let quote := if c == '\'' || c == '"' then some c else none
      (cutStep? depth quote s).map fun (a, b) => (c :: a, b)

/-! ## Predicates -/

/-- What stands between two of the same quote, which are the first and the last character. -/
def unquote? (quote : Char) (s : List Char) : Option (List Char) :=
  (Text.dropStart? [quote] s).bind (Text.dropEnd? [quote])

/-- A name and a quoted value with an equals sign between them. -/
def comparison (body : List Char) : Except Problem Predicate := do
  let unsupported := Problem.unsupportedPredicate (String.ofList body)
  match Text.cutAt? '=' body with
  | none => .error unsupported
  | some (left, right) =>
    let right := Text.trim right
    match (unquote? '\'' right).or (unquote? '"' right) with
    | none => .error .unquotedValue
    | some value =>
      let value := String.ofList value
      match Text.trim left with
      | '@' :: name =>
        if isName name then .ok (.attr (String.ofList name) value) else .error unsupported
      | name =>
        if isName name then .ok (.child (String.ofList name) value) else .error unsupported

/-- What stands between brackets, without blanks around it. -/
def predicate (body : List Char) : Except Problem Predicate :=
  match Numeral.unsigned? body with
  | some 0 => .error .positionZero
  | some n => .ok (.position n)
  | none => comparison body

/-- Predicates in brackets; each one ends at the next closing bracket. -/
def predicates : (fuel : Nat) → List Char → Except Problem (List Predicate)
  | _, [] => .ok []
  | 0, _ => .error .badPredicate
  | fuel + 1, '[' :: s =>
    match Text.cutAt? ']' s with
    | none => .error .badPredicate
    | some (body, s) => do
      let p ← predicate (Text.trim body)
      .ok (p :: (← predicates fuel s))
  | _, _ => .error .badPredicate

/-! ## Steps -/

/-- The test of a step, with the axis that the step moves along after `axis` was read before it. -/
def test (axis : Axis) (head : List Char) : Except Problem (Axis × Test) :=
  let word := String.ofList head
  if word == "." then .ok (.self, .anyElement)
  else if word == ".." then .error .parentStep
  else if word == "*" then .ok (axis, .anyElement)
  else if word == "@*" then .ok (axis, .anyAttribute)
  else if word == "text()" then .ok (axis, .text)
  else match head with
    | '@' :: name =>
      if isName name then .ok (axis, .attr (String.ofList name)) else .error (.badStep word)
    | name => if isName name then .ok (axis, .name word) else .error (.badStep word)

def step (axis : Axis) (s : List Char) : Except Problem Step := do
  let rest := s.dropWhile (· != '[')
  let predicates ← predicates rest.length rest
  let (axis, test) ← test axis (s.takeWhile (· != '['))
  .ok ⟨axis, test, predicates⟩

/-- The steps of a text, the first one along `axis`. -/
def readSteps : (fuel : Nat) → Axis → List Char → Except Problem (List Step)
  | 0, _, _ => .error .emptyStep
  | fuel + 1, axis, s =>
    match cutStep? 0 none s with
    | none => .error .unbalanced
    | some ([], _) => .error .emptyStep
    | some (first, rest) => do
      let first ← step axis first
      match rest with
      | [] => .ok [first]
      | ['/'] | ['/', '/'] => .error .trailingSlash
      | '/' :: '/' :: s => .ok (first :: (← readSteps fuel .descendant s))
      | _ :: s => .ok (first :: (← readSteps fuel .child s))

/-- Whether a path is absolute, the axis of its first step, and the text of its steps. -/
def lead : List Char → Bool × Axis × List Char
  | '/' :: '/' :: s => (true, .descendant, s)
  | '/' :: s => (true, .child, s)
  | s => (false, .child, s)

/-- The node path written in `source`, or what is wrong with it. -/
def parse (source : String) : Except Fault NodePath :=
  let s := Text.trim source.toList
  if s.isEmpty then .error ⟨.empty, source⟩
  else
    let (isAbsolute, axis, rest) := lead s
    match readSteps (s.length + 1) axis rest with
    | .ok steps => .ok ⟨isAbsolute, steps, String.ofList s⟩
    | .error problem => .error ⟨problem, String.ofList s⟩

end Recast.NodePath
