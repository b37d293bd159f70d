import Recast.Text.Basic

/-!
# Places in YAML text

A cursor is the text still to come and where it begins: line, column, and the characters before it.
Five characters break lines; all but two of them count as a line feed.
-/

namespace Recast.Yaml

/-- Whether a character may stand in a document at all. -/
def isAllowed (c : Char) : Bool :=
  let n := c.toNat
  n == 0x09 || n == 0x0A || n == 0x0D || (0x20 ≤ n && n ≤ 0x7E) || n == 0x85 ||
    (0xA0 ≤ n && n ≤ 0xFFFD) || 0x10000 ≤ n

def isBreak (c : Char) : Bool :=
  c == '\n' || c == '\r' || c == '\u0085' || c == '\u2028' || c == '\u2029'

def isSpaceOrTab (c : Char) : Bool := c == ' ' || c == '\t'

/-- Characters of names of anchors and directives. -/
def isWordChar (c : Char) : Bool := c.isAlphanum || c == '_' || c == '-'

/-- Whether a line ends here. -/
def endsLine : List Char → Bool
  | [] => true
  | c :: _ => isBreak c

/-- Whether a word ends here. -/
def endsWord : List Char → Bool
  | [] => true
  | c :: _ => isSpaceOrTab c || isBreak c

structure Cursor where
  rest : List Char
  index : Nat
  line : Nat
  column : Nat

namespace Cursor

def start (text : List Char) : Cursor := ⟨text, 0, 0, 0⟩

/-- Passes characters of the same line. -/
def skip (n : Nat) (c : Cursor) : Cursor :=
  { c with rest := c.rest.drop n, index := c.index + n, column := c.column + n }

/-- Passes all characters of a kind on the same line. -/
def skipWhile (p : Char → Bool) (c : Cursor) : Cursor := c.skip (c.rest.takeWhile p).length

/-- Passes a line break, if there is one, and tells what it counts as. -/
def takeBreak (c : Cursor) : List Char × Cursor :=
  match c.rest with
  | '\r' :: '\n' :: rest => (['\n'], ⟨rest, c.index + 2, c.line + 1, 0⟩)
  | b :: rest =>
    if !isBreak b then ([], c)
    else
      (if b == '\u2028' || b == '\u2029' then [b] else ['\n'], ⟨rest, c.index + 1, c.line + 1, 0⟩)
  | [] => ([], c)

def isAt (b : Char) (c : Cursor) : Bool := c.rest.head? == some b

/-- Whether a line begins here with the mark of the start or the end of a document. -/
def isAtMark (mark : List Char) (c : Cursor) : Bool :=
  c.column == 0 && match Text.dropStart? mark c.rest with
    | some rest => endsWord rest
    | none => false

def startMark : List Char := ['-', '-', '-']

def endMark : List Char := ['.', '.', '.']

def isAtAnyMark (c : Cursor) : Bool := c.isAtMark startMark || c.isAtMark endMark

/-- Passes blanks and a comment up to the end of the line, and the end of the line. -/
def finishLine? (c : Cursor) : Option Cursor :=
  let c := c.skipWhile isSpaceOrTab
  let c := if c.isAt '#' then c.skipWhile (!isBreak ·) else c
  if endsLine c.rest then some c.takeBreak.2 else none

end Cursor

end Recast.Yaml
