import Recast.Text.Utf8
import Recast.Yaml.Cursor

/-!
# Scalars of YAML text

Plain and quoted scalars fold line breaks: a single one is a blank, more of them lose one. Block
scalars keep the breaks of their lines, or fold those between lines of text.
-/

namespace Recast.Yaml

/-- How a scalar is written. -/
inductive Style where
  | plain
  | single
  | double
  | literal
  | folded
deriving DecidableEq, Repr

/-! ## Gaps between words -/

/-- What stands between two words: blanks on the first line, its break, and further breaks. -/
structure Gap where
  blanks : List Char
  first : List Char
  others : List Char
  broken : Bool

namespace Gap

def none : Gap := ⟨[], [], [], false⟩

/-- The gap after an escaped line break. -/
def escaped : Gap := ⟨[], [], [], true⟩

/-- What the gap contributes to the text. -/
def text (g : Gap) : List Char :=
  if !g.broken then g.blanks
  else if g.first == ['\n'] then if g.others.isEmpty then [' '] else g.others
  else g.first ++ g.others

/-- Reads a gap. In plain scalars, tabs before column `indent` of a later line are refused. -/
def read? (indent : Int) : (fuel : Nat) → Gap → Cursor → Option (Gap × Cursor)
  | 0, _, _ => .none
  | fuel + 1, g, c =>
    match c.rest with
    | [] => some (g, c)
    | b :: _ =>
      if isSpaceOrTab b then
        if g.broken && c.column < indent && b == '\t' then .none
        else
          let g := if g.broken then g else { g with blanks := g.blanks ++ [b] }
          read? indent fuel g (c.skip 1)
      else if isBreak b then
        let (text, c) := c.takeBreak
        let g := if g.broken then { g with others := g.others ++ text }
          else { g with first := text, broken := true }
        read? indent fuel g c
      else some (g, c)

end Gap

/-! ## Plain scalars -/

/-- The characters that end a plain scalar inside brackets. -/
def isFlowMark (c : Char) : Bool := c == ',' || c == '[' || c == ']' || c == '\x7b' || c == '\x7d'

/-- A word of a plain scalar and the text after it. -/
def plainWord? (inFlow : Bool) : List Char → Option (List Char × List Char)
  | [] => some ([], [])
  | c :: rest =>
    let next? := rest.head?
    if isSpaceOrTab c || isBreak c then some ([], c :: rest)
    else if inFlow && c == ':' && next?.any (fun n => isFlowMark n || n == '?') then none
    else if c == ':' && endsWord rest then some ([], c :: rest)
    else if inFlow && isFlowMark c then some ([], c :: rest)
    else (plainWord? inFlow rest).map fun (word, rest) => (c :: word, rest)

/-- A plain scalar after `text` and a gap; whether a line break follows it is told too. Outside of
brackets its later lines begin at column `indent` or after it. -/
def plain? (inFlow : Bool) (indent : Int) : (fuel : Nat) → (text : List Char) → Gap → Cursor →
    Option (List Char × Bool × Cursor)
  | 0, _, _, _ => none
  | fuel + 1, text, gap, c =>
    let done := some (text, gap.broken, c)
    if c.isAtAnyMark || c.isAt '#' then done
    else match plainWord? inFlow c.rest with
      | none => none
      | some ([], _) => done
      | some (word, rest) =>
        let text := text ++ gap.text ++ word
        let c := c.skip word.length
        match rest with
        | [] => some (text, false, c)
        | b :: _ =>
          if !isSpaceOrTab b && !isBreak b then some (text, false, c)
          else match Gap.read? indent (c.rest.length + 1) .none c with
            | none => none
            | some (gap, c) =>
              if !inFlow && c.column < indent then some (text, gap.broken, c)
              else plain? inFlow indent fuel text gap c

/-! ## Quoted scalars -/

/-- What an escape of one letter stands for. -/
def escape? : Char → Option Char
  | '0' => some '\x00'
  | 'a' => some '\x07'
  | 'b' => some '\x08'
  | 't' => some '\t'
  | '\t' => some '\t'
  | 'n' => some '\n'
  | 'v' => some '\x0b'
  | 'f' => some '\x0c'
  | 'r' => some '\r'
  | 'e' => some '\x1b'
  | ' ' => some ' '
  | '"' => some '"'
  | '/' => some '/'
  | '\\' => some '\\'
  | 'N' => some '\u0085'
  | '_' => some '\u00a0'
  | 'L' => some '\u2028'
  | 'P' => some '\u2029'
  | _ => none

/-- The number of digits of a coded escape. -/
def codeLength? : Char → Option Nat
  | 'x' => some 2
  | 'u' => some 4
  | 'U' => some 8
  | _ => none

/-- The value of hexadecimal digits. -/
def hexValue? (digits : List Char) : Option Nat :=
  digits.foldlM (fun n c => (Text.hexDigit? c).map (n * 16 + ·)) 0

/-- The character that `n` digits give the code of. -/
def coded? (n : Nat) (rest : List Char) : Option Char := do
  let digits := rest.take n
  let code ← hexValue? digits
  if digits.length == n && (code < 0xD800 || (0xDFFF < code && code < 0x110000)) then
    some (Char.ofNat code)
  else none

/-- A stretch of a quoted scalar after `text`: up to a blank, a break or the closing quote. It tells
whether it ended with an escaped line break. -/
def quotedRun? (double : Bool) : (fuel : Nat) → (text : List Char) → Cursor →
    Option (List Char × Bool × Cursor)
  | 0, _, _ => none
  | fuel + 1, text, c =>
    match c.rest with
    | [] => some (text, false, c)
    | b :: rest =>
      if isSpaceOrTab b || isBreak b then some (text, false, c)
      else if !double && b == '\'' then
        if rest.head? == some '\'' then quotedRun? double fuel (text ++ ['\'']) (c.skip 2)
        else some (text, false, c)
      else if double && b == '"' then some (text, false, c)
      else if double && b == '\\' then
        match rest with
        | [] => none
        | e :: rest =>
          if isBreak e then some (text, true, (c.skip 1).takeBreak.2)
          else match escape? e, codeLength? e with
            | some d, _ => quotedRun? double fuel (text ++ [d]) (c.skip 2)
            | none, some n =>
              match coded? n rest with
              | some d => quotedRun? double fuel (text ++ [d]) (c.skip (2 + n))
              | none => none
            | none, none => none
      else quotedRun? double fuel (text ++ [b]) (c.skip 1)

/-- A quoted scalar after its opening quote and `text`. -/
def quoted? (double : Bool) :
    (fuel : Nat) → (text : List Char) → Cursor → Option (List Char × Cursor)
  | 0, _, _ => none
  | fuel + 1, text, c => do
    if c.isAtAnyMark || c.rest.isEmpty then none
    else
      let (text, escaped, c) ← quotedRun? double (c.rest.length + 1) text c
      if c.isAt (if double then '"' else '\'') then some (text, c.skip 1)
      else
        let gap := if escaped then Gap.escaped else Gap.none
        let (gap, c) ← Gap.read? 0 (c.rest.length + 1) gap c
        quoted? double fuel (text ++ gap.text) c

/-! ## Block scalars -/

/-- What becomes of the line breaks at the end of a block scalar. -/
inductive Chomping where
  | strip
  | clip
  | keep
deriving DecidableEq

def Chomping.ofMark? : Char → Option Chomping
  | '-' => some strip
  | '+' => some keep
  | _ => none

/-- A digit of an indentation, which is not zero, if there is one. -/
def indentDigit? : List Char → Option (Nat × List Char)
  | [] => some (0, [])
  | c :: rest =>
    if c == '0' then none
    else if Text.isDigit c then some (c.toNat - 48, rest)
    else some (0, c :: rest)

/-- How the end is chomped, and the indentation if it is given, in either order. -/
def blockHeader? (s : List Char) : Option (Chomping × Nat × List Char) :=
  let chomping (s : List Char) : Chomping × List Char :=
    match s with
    | c :: rest => match Chomping.ofMark? c with
      | some chomping => (chomping, rest)
      | none => (.clip, s)
    | [] => (.clip, [])
  match chomping s with
  | (.clip, _) => do
    let (n, s) ← indentDigit? s
    let (chomping, s) := if n == 0 then (.clip, s) else chomping s
    some (chomping, n, s)
  | (chomping, s) => do
    let (n, s) ← indentDigit? s
    some (chomping, n, s)

/-- Passes empty lines and the blanks before column `indent`, or all blanks while no indentation is
known. It tells the breaks passed and the largest column reached. -/
def blockBreaks? (indent : Option Nat) : (fuel : Nat) → (breaks : List Char) → (widest : Nat) →
    Cursor → Option (List Char × Nat × Cursor)
  | 0, _, _, _ => none
  | fuel + 1, breaks, widest, c =>
    let blanks := c.rest.takeWhile (· == ' ')
    let c := c.skip (match indent with
      | some n => min blanks.length (n - c.column)
      | none => blanks.length)
    let widest := max widest c.column
    if c.isAt '\t' && (match indent with | some n => decide (c.column < n) | none => true) then none
    else if c.rest.isEmpty || endsLine c.rest == false then some (breaks, widest, c)
    else
      let (text, c) := c.takeBreak
      blockBreaks? indent fuel (breaks ++ text) widest c

/-- The text of a block scalar under way. -/
structure Block where
  text : List Char
  /-- The break of the last line. -/
  first : List Char
  /-- The empty lines after it. -/
  others : List Char
  /-- Whether the last line began with a blank. -/
  indented : Bool

/-- The text with the breaks before the next line put in. -/
def Block.joined (folded : Bool) (b : Block) (indented : Bool) : List Char :=
  if folded && b.first == ['\n'] && !b.indented && !indented then
    b.text ++ (if b.others.isEmpty then [' '] else []) ++ b.others
  else b.text ++ b.first ++ b.others

/-- The lines of a block scalar. -/
def blockLines? (folded : Bool) (indent : Nat) : (fuel : Nat) → Block → Cursor →
    Option (Block × Cursor)
  | 0, _, _ => none
  | fuel + 1, b, c =>
    if c.column != indent || c.rest.isEmpty then some (b, c)
    else
      let indented := match c.rest with
        | d :: _ => isSpaceOrTab d
        | [] => false
      let line := c.rest.takeWhile (!isBreak ·)
      let text := b.joined folded indented ++ line
      let (first, c) := (c.skip line.length).takeBreak
      match blockBreaks? (some indent) (c.rest.length + 1) [] 0 c with
      | none => none
      | some (others, _, c) => blockLines? folded indent fuel ⟨text, first, others, indented⟩ c

/-- A block scalar after its mark, below a level of indentation. -/
def block? (folded : Bool) (level : Int) (c : Cursor) : Option (List Char × Cursor) := do
  let (chomping, given, rest) ← blockHeader? c.rest
  let c ← (c.skip (c.rest.length - rest.length)).finishLine?
  let indent? := if given == 0 then none else some ((max level 0).toNat + given)
  let (breaks, widest, c) ← blockBreaks? indent? (c.rest.length + 1) [] 0 c
  let indent := indent?.getD (max (max widest (level + 1).toNat) 1)
  let (b, c) ← blockLines? folded indent (c.rest.length + 1) ⟨[], [], breaks, false⟩ c
  let text := match chomping with
    | .strip => b.text
    | .clip => b.text ++ b.first
    | .keep => b.text ++ b.first ++ b.others
  some (text, c)

end Recast.Yaml
