import Recast.Path.Basic

/-!
# Reading paths

`parse` reads a path from text without its surrounding blanks. What cannot be read is reported with
the problem and the number of characters before it.
-/

namespace Recast.Path

/-! ## Problems -/

inductive Problem where
  | empty
  | unterminated
  | danglingEscape
  | badIndex
  | minusZero
  | badRoot
  | badSelector
  | badBracket
  | missingName
  | missingClose
deriving DecidableEq, Repr

namespace Problem

def message : Problem → String
  | empty => "Empty JSONPath expression"
  | unterminated => "Unterminated string"
  | danglingEscape => "Dangling escape"
  | badIndex => "Invalid array index"
  | minusZero => "Index -0 is not valid"
  | badRoot => "JSONPath must start with $ or @"
  | badSelector => "Unexpected character in selector"
  | badBracket => "Unsupported bracket selector"
  | missingName => "Expected property name"
  | missingClose => "Unexpected character"

/-- What could stand there, for problems with a single character. -/
def expected : Problem → List String
  | badRoot => ["$", "@"]
  | badSelector => [".", "["]
  | badBracket => ["'name'", "index", "*"]
  | missingName => ["identifier", "*"]
  | missingClose => ["]"]
  | _ => []

/-- Whether the problem is the character found. -/
def isSyntax (p : Problem) : Bool := !p.expected.isEmpty

end Problem

/-- Why a text is no path: the problem, the characters before it, the character there, and the
text. -/
structure Fault where
  problem : Problem
  position : Nat
  found : Option Char
  source : String
deriving DecidableEq, Repr

namespace Fault

def foundText (f : Fault) : String :=
  match f.found with
  | some c => String.ofList [c]
  | none => "EOF"

def message (f : Fault) : String :=
  let place :=
    "at position " ++ toString f.position ++ " in '" ++ f.source ++ "': " ++ f.problem.message
  "JSONPath error: " ++ if f.problem.isSyntax then
    "Syntax error " ++ place ++ " (expected one of " ++ Text.joinWith ", " f.problem.expected ++
      ", found " ++ f.foundText ++ ")"
  else "Parse error " ++ place

end Fault

/-! ## Selectors -/

/-- Where reading stopped: the problem and the text from there on. -/
structure Stop where
  problem : Problem
  rest : List Char
deriving DecidableEq, Repr

def stop (problem : Problem) (rest : List Char) : Except Stop α := .error ⟨problem, rest⟩

/-- A name without quotes. -/
def name (s : List Char) : Except Stop (String × List Char) :=
  match s.takeWhile isNameChar with
  | [] => stop .missingName s
  | cs => .ok (String.ofList cs, s.dropWhile isNameChar)

/-- A quoted name after its opening quote; `done` are the characters read, reversed. -/
def quotedName (quote : Char) (done : List Char) : List Char → Except Stop (String × List Char)
  | [] => stop .unterminated []
  | '\\' :: s =>
    match s with
    | [] => stop .danglingEscape []
    | c :: s => quotedName quote (c :: done) s
  | c :: s =>
    if c == quote then .ok (String.ofList done.reverse, s) else quotedName quote (c :: done) s

/-- The digits of a position. -/
def digits (s : List Char) : Except Stop (Nat × List Char) :=
  match Text.natural? (s.takeWhile Text.isDigit) with
  | some n => if n < indexLimit then .ok (n, s.dropWhile Text.isDigit) else stop .badIndex s
  | none => stop .badIndex s

/-- A position, counted from the end after a minus sign. -/
def position (s : List Char) : Except Stop (Selector × List Char) :=
  match s with
  | '-' :: s => do
    let (n, rest) ← digits s
    if n == 0 then stop .minusZero s else .ok (.fromEnd n, rest)
  | s => do
    let (n, rest) ← digits s
    .ok (.index n, rest)

def skipBlanks (s : List Char) : List Char := s.dropWhile Text.isBlank

/-- The closing bracket. -/
def close (sel : Selector) (s : List Char) : Except Stop (Selector × List Char) :=
  match skipBlanks s with
  | ']' :: s => .ok (sel, s)
  | s => stop .missingClose s

/-- A selector in brackets, after the opening one. -/
def bracket (s : List Char) : Except Stop (Selector × List Char) :=
  match skipBlanks s with
  | '\'' :: s => do
    let (n, s) ← quotedName '\'' [] s
    close (.child n) s
  | '"' :: s => do
    let (n, s) ← quotedName '"' [] s
    close (.child n) s
  | '*' :: s => close .wildcard s
  | c :: s =>
    if c == '-' || Text.isDigit c then do
      let (sel, s) ← position (c :: s)
      close sel s
    else stop .badBracket (c :: s)
  | [] => stop .badBracket []

/-- What stands after a point: a name or a star. -/
def afterPoint (s : List Char) : Except Stop (Selector × List Char) :=
  match s with
  | '*' :: s => .ok (.wildcard, s)
  | s => do
    let (n, s) ← name s
    .ok (.child n, s)

/-- One step: the selectors it stands for, and the text after it. -/
def step (s : List Char) : Except Stop (List Selector × List Char) :=
  match s with
  | '.' :: '.' :: '[' :: s => .ok ([.descent], '[' :: s)
  | '.' :: '.' :: s => do
    let (sel, s) ← afterPoint s
    .ok ([.descent, sel], s)
  | '.' :: s => do
    let (sel, s) ← afterPoint s
    .ok ([sel], s)
  | '[' :: s => do
    let (sel, s) ← bracket s
    .ok ([sel], s)
  | s => stop .badSelector s

/-- All steps to the end of the text; every step takes at least one character. -/
def steps : (fuel : Nat) → List Char → Except Stop (List Selector)
  | _, [] => .ok []
  | 0, s => stop .badSelector s
  | fuel + 1, s => do
    let (sels, s) ← step s
    .ok (sels ++ (← steps fuel s))

/-! ## Paths -/

/-- A path that fills the text. -/
def expression (s : List Char) : Except Stop Path :=
  match s with
  | '$' :: s => do .ok ⟨.document, ← steps s.length s⟩
  | '@' :: s => do .ok ⟨.current, ← steps s.length s⟩
  | s => stop .badRoot s

/-- The path written in `source`, or what is wrong with it. -/
def parse (source : String) : Except Fault Path :=
  let s := Text.trim source.toList
  if s.isEmpty then .error ⟨.empty, 0, none, source⟩
  else match expression s with
    | .ok p => .ok p
    | .error e => .error ⟨e.problem, s.length - e.rest.length, e.rest.head?, source⟩

end Recast.Path
