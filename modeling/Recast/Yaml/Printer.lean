import Recast.Yaml.Cursor
import Recast.Yaml.Plain

/-!
# Writing YAML scalars

A string is written as it is where that reads back as text, on lines of its own if it has line
feeds, and in quotes otherwise.
-/

namespace Recast.Yaml

/-- Whether a character can be written as it is. -/
def isPrintable (c : Char) : Bool :=
  let n := c.toNat
  n == 0x0A || (0x20 ≤ n && n ≤ 0x7E) || (0xA0 ≤ n && n ≤ 0xFFFD && n != 0xFEFF)

/-! ## What a string looks like -/

/-- Words that some readers take for truth values. -/
def flagWords : List String := [
  "y", "Y", "yes", "Yes", "YES", "n", "N", "no", "No", "NO", "true", "True", "TRUE", "false",
  "False", "FALSE", "on", "On", "ON", "off", "Off", "OFF"]

/-- Whether a string would be read as something else, or nearly so. -/
def isAmbiguous (s : String) : Bool :=
  flagWords.contains s || Plain.read? s != some .text || Plain.isZeroFilled s.toList

/-- Whether the first character makes a plain scalar impossible. -/
def isLeadingMark (c : Char) (rest : List Char) : Bool :=
  "#,[]\x7b\x7d&*!|>'\"%@`".toList.contains c || ("?:-".toList.contains c && endsWord rest)

/-- Whether a mark inside of a string makes a plain scalar impossible: a colon before a blank, or a
number sign after one. -/
def hasMark : (afterBlank : Bool) → List Char → Bool
  | _, [] => false
  | afterBlank, c :: rest =>
    (c == ':' && endsWord rest) || (c == '#' && afterBlank) ||
      hasMark (isSpaceOrTab c || isBreak c) rest

def hasBlockMark (s : List Char) : Bool :=
  Text.startsWith Cursor.startMark s || Text.startsWith Cursor.endMark s ||
    match s with
    | [] => false
    | c :: rest => isLeadingMark c rest || hasMark (isSpaceOrTab c || isBreak c) rest

/-- Whether a character that satisfies `p` comes right before one that satisfies `q`. -/
def hasPair (p q : Char → Bool) : List Char → Bool
  | c :: d :: rest => (p c && q d) || hasPair p q (d :: rest)
  | _ => false

def isSpace (c : Char) : Bool := c == ' '

/-- Whether a string begins or ends with a blank or a break. -/
def hasOuterGap (s : List Char) : Bool :=
  let isGap (c : Char) : Bool := isSpace c || isBreak c
  s.head?.any isGap || s.getLast?.any isGap

/-- Whether a blank before a break, or a character that cannot be written, asks for double
quotes. -/
def needsEscapes (s : List Char) : Bool := hasPair isSpace isBreak s || s.any (!isPrintable ·)

def allowsPlain (s : List Char) : Bool :=
  !hasOuterGap s && !needsEscapes s && !s.any isBreak && !hasBlockMark s

def allowsSingle (s : List Char) : Bool := !needsEscapes s && !hasPair isBreak isSpace s

def allowsBlock (s : List Char) : Bool :=
  !s.isEmpty && !s.getLast?.any isSpace && !needsEscapes s

/-! ## Ways of writing -/

/-- The letter of a character in double quotes, if it has one. -/
def letter? (c : Char) : Option Char :=
  match c with
  | '\x00' => some '0'
  | '\x07' => some 'a'
  | '\x08' => some 'b'
  | '\t' => some 't'
  | '\n' => some 'n'
  | '\x0b' => some 'v'
  | '\x0c' => some 'f'
  | '\r' => some 'r'
  | '\x1b' => some 'e'
  | '"' => some '"'
  | '\\' => some '\\'
  | '\u0085' => some 'N'
  | '\u00a0' => some '_'
  | '\u2028' => some 'L'
  | '\u2029' => some 'P'
  | _ => none

/-- A number in upper-case hexadecimal digits. -/
def hexText (n : Nat) : String := (String.ofList (Nat.toDigits 16 n)).toUpper

/-- A character in double quotes. -/
def escapeChar (c : Char) : String :=
  if isPrintable c && !isBreak c && c != '"' && c != '\\' then String.ofList [c]
  else match letter? c with
    | some l => String.ofList ['\\', l]
    | none =>
      let n := c.toNat
      if n ≤ 0xFF then "\\x" ++ Text.padLeft '0' 2 (hexText n)
      else if n ≤ 0xFFFF then "\\u" ++ Text.padLeft '0' 4 (hexText n)
      else "\\U" ++ Text.padLeft '0' 8 (hexText n)

def doubleQuoted (s : List Char) : String := "\"" ++ String.join (s.map escapeChar) ++ "\""

def blanks (n : Nat) : String := String.ofList (List.replicate n ' ')

/-- Text in single quotes; a line after a break is indented. -/
def singleQuoted (indent : Nat) (s : List Char) : String :=
  let write (c : Char) : String := if c == '\'' then "''" else String.ofList [c]
  let step : Bool × String → Char → Bool × String := fun (broken, out) c =>
    if isBreak c then (true, out ++ String.ofList [c])
    else (false, out ++ (if broken then blanks indent else "") ++ write c)
  "'" ++ (s.foldl step (false, "")).2 ++ "'"

/-- The lines of a string, each with its break. -/
def blockLines (indent : Nat) (s : List Char) : String :=
  let step : Bool × String → Char → Bool × String := fun (fresh, out) c =>
    if isBreak c then (true, out ++ String.ofList [c])
    else (false, out ++ (if fresh then blanks indent else "") ++ String.ofList [c])
  (s.foldl step (true, "")).2

/-- The marks of a block scalar: the indentation if the text begins with a gap, and what becomes of
its last breaks. -/
def blockHints (s : List Char) : String :=
  let indentation := if s.head?.any fun c => isSpace c || isBreak c then "2" else ""
  let chomping := match s.reverse with
    | c :: rest =>
      if !isBreak c then "-" else match rest with
        | [] => "+"
        | d :: _ => if isBreak d then "+" else ""
    | [] => "-"
  indentation ++ chomping

/-- A string as the value of a key, with lines of its own at an indentation. The last line is
left open or closed. -/
def scalarText (indent : Nat) (s : String) : String :=
  let cs := s.toList
  if !flagWords.contains s && cs.contains '\n' then
    if allowsBlock cs then "|" ++ blockHints cs ++ "\n" ++ blockLines indent cs
    else doubleQuoted cs
  else if !isAmbiguous s && allowsPlain cs then s
  else if allowsSingle cs then singleQuoted indent cs
  else doubleQuoted cs

/-- A line with a key and a string, and its end. -/
def stringLine (indent : Nat) (key s : String) : String :=
  let line := blanks indent ++ key ++ ": " ++ scalarText (indent + 2) s
  if line.toList.getLast? == some '\n' then line else line ++ "\n"

end Recast.Yaml
