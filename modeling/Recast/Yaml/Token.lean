import Recast.Yaml.Scalar
import Recast.Yaml.Tag

/-!
# Tokens of YAML text

`tokens?` takes a text apart. A key is only known by the colon after it, so a place is left open in
front of every scalar and collection that may be one; the places that colons decide on are filled in
at the end.
-/

namespace Recast.Yaml

inductive Token where
  | directive (d : Directive)
  | documentStart
  | documentEnd
  | blockSequenceStart
  | blockMappingStart
  | blockEnd
  | flowSequenceStart
  | flowSequenceEnd
  | flowMappingStart
  | flowMappingEnd
  | blockEntry
  | flowEntry
  | key
  | value
  | reference (name : String)
  | anchor (name : String)
  | tag (handle suffix : String)
  | scalar (style : Style) (text : String)

/-- What may turn out to be a key: the open place in front of it, where it begins, and whether it
has to be one. -/
structure Candidate where
  place : Nat
  line : Nat
  column : Nat
  index : Nat
  isRequired : Bool

/-- A token, or an open place for the marks of a key. -/
inductive Entry where
  | token (t : Token)
  | place (n : Nat)

/-- A text that is being taken apart. Entries and decided places are in reverse order; of the
candidates, one for every open bracket and one for the text outside, the innermost comes first. -/
structure Lexer where
  cursor : Cursor
  entries : List Entry
  places : Nat
  /-- The places of keys, and whether the key begins a mapping. -/
  decided : List (Nat × Bool)
  indent : Int
  outerIndents : List Int
  keyAllowed : Bool
  candidates : List (Option Candidate)

namespace Lexer

def start (text : List Char) : Lexer := ⟨Cursor.start text, [], 0, [], -1, [], true, [none]⟩

def inFlow (l : Lexer) : Bool := decide (1 < l.candidates.length)

def emit (t : Token) (l : Lexer) : Lexer := { l with entries := .token t :: l.entries }

def skip (n : Nat) (l : Lexer) : Lexer := { l with cursor := l.cursor.skip n }

/-- Goes on where the rest of the line is `rest`. -/
def goTo (rest : List Char) (l : Lexer) : Lexer := l.skip (l.cursor.rest.length - rest.length)

def allowKey (allowed : Bool) (l : Lexer) : Lexer := { l with keyAllowed := allowed }

/-! ## Indentation -/

/-- Closes the blocks that are indented more than a column. -/
def closeTo (column : Int) : List Int → Lexer → Lexer
  | outer :: rest, l =>
    if l.indent ≤ column then l
    else closeTo column rest { l.emit .blockEnd with indent := outer, outerIndents := rest }
  | [], l => l

def close (column : Int) (l : Lexer) : Lexer :=
  if l.inFlow then l else closeTo column l.outerIndents l

/-- Opens a block at a column, unless it is open already. -/
def opens (column : Nat) (l : Lexer) : Bool := !l.inFlow && decide (l.indent < column)

def push (column : Nat) (l : Lexer) : Lexer :=
  { l with indent := column, outerIndents := l.indent :: l.outerIndents }

def openBlock (t : Token) (l : Lexer) : Lexer :=
  if l.opens l.cursor.column then (l.emit t).push l.cursor.column else l

/-! ## Keys -/

/-- Gives up a candidate. -/
def dropCandidate? : Option Candidate → Option (Option Candidate)
  | some c => if c.isRequired then none else some none
  | none => some none

/-- Gives up the innermost candidate. -/
def forgetKey? (l : Lexer) : Option Lexer :=
  match l.candidates with
  | c :: rest => do some { l with candidates := (← dropCandidate? c) :: rest }
  | [] => some l

/-- Leaves a place open for what comes now. -/
def expectKey? (l : Lexer) : Option Lexer :=
  if !l.keyAllowed then some l
  else do
    let l ← l.forgetKey?
    let isRequired := !l.inFlow && l.indent == l.cursor.column
    let c : Candidate := ⟨l.places, l.cursor.line, l.cursor.column, l.cursor.index, isRequired⟩
    some { l with
      entries := .place l.places :: l.entries
      places := l.places + 1
      candidates := some c :: l.candidates.drop 1 }

/-- A key ends on its line and has at most 1024 characters. -/
def isStale (cursor : Cursor) (c : Candidate) : Bool :=
  decide (c.line < cursor.line) || decide (c.index + 1024 < cursor.index)

/-- Gives up the candidates that cannot become keys any more. -/
def forgetStale? (l : Lexer) : Option Lexer := do
  let candidates ← l.candidates.mapM fun c? =>
    match c? with
    | some c => if isStale l.cursor c then dropCandidate? c else some c?
    | none => some none
  some { l with candidates }

/-! ## Blanks and comments -/

/-- Passes blanks, comments and line breaks. -/
def toToken : (fuel : Nat) → Lexer → Lexer
  | 0, l => l
  | fuel + 1, l =>
    let c := l.cursor
    let c := if c.column == 0 && c.isAt '\ufeff' then c.skip 1 else c
    let tabs := l.inFlow || !l.keyAllowed
    let c := c.skipWhile fun b => b == ' ' || (tabs && b == '\t')
    let c := if c.isAt '#' then c.skipWhile (!isBreak ·) else c
    if c.rest.isEmpty || !endsLine c.rest then { l with cursor := c }
    else toToken fuel { l with cursor := c.takeBreak.2, keyAllowed := l.keyAllowed || !l.inFlow }

/-! ## Tokens -/

/-- Ends all blocks before a mark of the document. -/
def endBlocks? (l : Lexer) : Option Lexer := do some ((← (l.close (-1)).forgetKey?).allowKey false)

def mark? (t : Token) (l : Lexer) : Option Lexer := do some ((← l.endBlocks?).emit t |>.skip 3)

def readDirective? (l : Lexer) : Option Lexer := do
  let l ← l.endBlocks?
  let (d, rest) ← directive? (l.cursor.rest.drop 1)
  let l := (l.goTo rest).emit (.directive d)
  some { l with cursor := ← l.cursor.finishLine? }

def openFlow? (t : Token) (l : Lexer) : Option Lexer := do
  let l ← l.expectKey?
  some (({ l with candidates := none :: l.candidates }.allowKey true).emit t |>.skip 1)

def closeFlow? (t : Token) (l : Lexer) : Option Lexer := do
  let l ← l.forgetKey?
  let l := if l.inFlow then { l with candidates := l.candidates.drop 1 } else l
  some ((l.allowKey false).emit t |>.skip 1)

def flowEntry? (l : Lexer) : Option Lexer := do
  some (((← l.forgetKey?).allowKey true).emit .flowEntry |>.skip 1)

def blockEntry? (l : Lexer) : Option Lexer := do
  if !l.inFlow && !l.keyAllowed then none
  else some (((← (l.openBlock .blockSequenceStart).forgetKey?).allowKey true).emit .blockEntry |>.skip 1)

def key? (l : Lexer) : Option Lexer := do
  if !l.inFlow && !l.keyAllowed then none
  else some (((← (l.openBlock .blockMappingStart).forgetKey?).allowKey !l.inFlow).emit .key |>.skip 1)

/-- The mark of a value. It makes the candidate before it a key. -/
def value? (l : Lexer) : Option Lexer :=
  match l.candidates with
  | some c :: rest =>
    let opens := l.opens c.column
    let l := if opens then l.push c.column else l
    let l := { l with candidates := none :: rest, decided := (c.place, opens) :: l.decided }
    some ((l.allowKey false).emit .value |>.skip 1)
  | _ =>
    if !l.inFlow && !l.keyAllowed then none
    else some (((l.openBlock .blockMappingStart).allowKey !l.inFlow).emit .value |>.skip 1)

def named? (make : String → Token) (l : Lexer) : Option Lexer := do
  let l := (← l.expectKey?).allowKey false
  let (name, rest) ← anchorName? (l.cursor.rest.drop 1)
  some ((l.goTo rest).emit (make name))

def readTag? (l : Lexer) : Option Lexer := do
  let l := (← l.expectKey?).allowKey false
  let ((handle, suffix), rest) ← tag? l.inFlow l.cursor.rest
  some ((l.goTo rest).emit (.tag handle suffix))

def readBlock? (folded : Bool) (l : Lexer) : Option Lexer := do
  let l := (← l.forgetKey?).allowKey true
  let (text, cursor) ← block? folded l.indent (l.cursor.skip 1)
  some ({ l with cursor }.emit (.scalar (if folded then .folded else .literal) (String.ofList text)))

def readQuoted? (double : Bool) (l : Lexer) : Option Lexer := do
  let l := (← l.expectKey?).allowKey false
  let (text, cursor) ← quoted? double (l.cursor.rest.length + 1) [] (l.cursor.skip 1)
  some ({ l with cursor }.emit (.scalar (if double then .double else .single) (String.ofList text)))

def readPlain? (l : Lexer) : Option Lexer := do
  let l := (← l.expectKey?).allowKey false
  let (text, broken, cursor) ←
    plain? l.inFlow (l.indent + 1) (l.cursor.rest.length + 1) [] Gap.none l.cursor
  some ({ l with cursor, keyAllowed := broken }.emit (.scalar .plain (String.ofList text)))

/-- The characters that no plain scalar begins with, unless more follows some of them. -/
def isIndicator (c : Char) : Bool := "-?:,[]\x7b\x7d#&*!|>'\"%@`".toList.contains c

/-- Whether a plain scalar begins here. -/
def isPlainStart (inFlow : Bool) (c : Char) (rest : List Char) : Bool :=
  !(isSpaceOrTab c || isBreak c || isIndicator c) ||
    (c == '-' && !rest.head?.any isSpaceOrTab) ||
    (!inFlow && (c == '?' || c == ':') && !endsWord rest)

/-- Reads the token at the cursor. -/
def token? (l : Lexer) : Option Lexer :=
  match l.cursor.rest with
  | [] => none
  | c :: rest =>
    let alone := endsWord rest
    if l.cursor.column == 0 && c == '%' then l.readDirective?
    else if l.cursor.isAtMark Cursor.startMark then l.mark? .documentStart
    else if l.cursor.isAtMark Cursor.endMark then l.mark? .documentEnd
    else if c == '[' then l.openFlow? .flowSequenceStart
    else if c == '\x7b' then l.openFlow? .flowMappingStart
    else if c == ']' then l.closeFlow? .flowSequenceEnd
    else if c == '\x7d' then l.closeFlow? .flowMappingEnd
    else if c == ',' then l.flowEntry?
    else if c == '-' && alone then l.blockEntry?
    else if c == '?' && (l.inFlow || alone) then l.key?
    else if c == ':' && (l.inFlow || alone) then l.value?
    else if c == '*' then l.named? .reference
    else if c == '&' then l.named? .anchor
    else if c == '!' then l.readTag?
    else if c == '|' && !l.inFlow then l.readBlock? false
    else if c == '>' && !l.inFlow then l.readBlock? true
    else if c == '\'' then l.readQuoted? false
    else if c == '"' then l.readQuoted? true
    else if isPlainStart l.inFlow c rest then l.readPlain?
    else none

/-- Reads tokens up to the end of the text. -/
def run? : (fuel : Nat) → Lexer → Option Lexer
  | 0, _ => none
  | fuel + 1, l => do
    let l ← (toToken (l.cursor.rest.length + 1) l).forgetStale?
    let l := l.close l.cursor.column
    if l.cursor.rest.isEmpty then (l.close (-1)).forgetKey?
    else run? fuel (← l.token?)

/-- The tokens, with the marks of keys in their places. -/
def tokens (l : Lexer) : List Token :=
  l.entries.reverse.flatMap fun entry =>
    match entry with
    | .token t => [t]
    | .place n =>
      match l.decided.lookup n with
      | some true => [.blockMappingStart, .key]
      | some false => [.key]
      | none => []

end Lexer

/-- The tokens of a text, which may begin with a byte order mark. -/
def tokens? (text : List Char) : Option (List Token) :=
  let text := if text.head? == some '\ufeff' then text.drop 1 else text
  if !text.all isAllowed then none
  else do some (← Lexer.run? (text.length + 2) (Lexer.start text)).tokens

end Recast.Yaml
