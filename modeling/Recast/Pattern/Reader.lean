import Recast.Pattern.Syntax
import Recast.Text.Letter

/-!
# Reading patterns

`parse?` reads a pattern from its text, applying flags as they come up. Groups are numbered by their
opening parentheses; `names` lists those that have a name. `parseScript?` reads patterns as scripts
write them: letters for classes stand for ASCII classes, and groups may look ahead.
-/

namespace Recast.Pattern

/-- A pattern with its groups: their number, the whole match not counted, and their names. -/
structure Source where
  expr : Expr
  groups : Nat
  names : List (String × Nat)

structure Flags where
  ignoreCase : Bool := false
  multiLine : Bool := false
  dotAll : Bool := false
  swapGreed : Bool := false
  unicode : Bool := true
  carriageReturns : Bool := false
  spaced : Bool := false
  script : Bool := false

namespace Reader

structure State where
  flags : Flags := {}
  groups : Nat := 0
  names : List (String × Nat) := []
  rest : List Char

/-! ## Blanks -/

/-- Drops blanks and comments; in a comment everything up to the end of the line goes. -/
def dropSpace (inComment : Bool) : List Char → List Char
  | [] => []
  | c :: s =>
    if inComment then dropSpace (c != '\n') s
    else if Text.isBlank c then dropSpace false s
    else if c == '#' then dropSpace true s
    else c :: s

/-- The text without leading blanks and comments, where they do not count. -/
def skip (f : Flags) (s : List Char) : List Char := if f.spaced then dropSpace false s else s

/-! ## Numbers -/

/-- Digits that blanks may stand between, where they do not count. -/
def decimalDigits (f : Flags) : (fuel : Nat) → List Char → List Char × List Char
  | 0, s => ([], s)
  | _, [] => ([], [])
  | fuel + 1, c :: s =>
    if Text.isDigit c then
      let (ds, s) := decimalDigits f fuel (skip f s)
      (c :: ds, s)
    else ([], c :: s)

/-- A number below 2^32 with blanks around it; `none` inside when there are no digits. -/
def decimal (f : Flags) (s : List Char) : Option (Option Nat × List Char) :=
  let s := s.dropWhile Text.isBlank
  let (ds, s) := decimalDigits f (s.length + 1) s
  let s := s.dropWhile Text.isBlank
  if ds.isEmpty then some (none, s)
  else
    let n := Text.digitsValue ds
    if n < Nat.pow 2 32 then some (some n, s) else none

/-! ## Escapes -/

/-- What an escape, or a character by itself, stands for. -/
inductive Primitive where
  /-- A character, and whether it was written as one byte. -/
  | char (c : Char) (isByte : Bool)
  | set (ranges : Ranges)
  | dot
  | look (l : Look)

def isMeta (c : Char) : Bool := "\\.+*?()|[]\x7b\x7d^$#&-~".toList.contains c

/-- ASCII characters that may stand after a backslash for themselves. -/
def isEscapable (c : Char) : Bool :=
  isMeta c || (c.toNat < 128 && !c.isAlphanum && c != '<' && c != '>')

/-- A scalar value. -/
def scalar? (n : Nat) : Option Char :=
  if n < 0xD800 || (0xDFFF < n && n ≤ 0x10FFFF) then some (Char.ofNat n) else none

/-- A fixed number of hexadecimal digits. -/
def hexDigits (f : Flags) (n : Nat) : (count : Nat) → List Char → Option (Nat × List Char)
  | 0, s => some (n, s)
  | count + 1, s =>
    match s with
    | [] => none
    | c :: s =>
      match Text.hexDigit? c with
      | some d => hexDigits f (n * 16 + d) count (skip f s)
      | none => none

/-- Hexadecimal digits up to a closing brace; at least one. -/
def hexBraced (f : Flags) (n : Nat) (any : Bool) :
    (fuel : Nat) → List Char → Option (Nat × List Char)
  | 0, _ => none
  | fuel + 1, s =>
    match s with
    | [] => none
    | '\x7d' :: s => if any then some (n, skip f s) else none
    | c :: s =>
      match Text.hexDigit? c with
      | some d => hexBraced f (min (n * 16 + d) (Nat.pow 2 32)) true fuel (skip f s)
      | none => none

/-- A character by its code, after the letter that says how long the code is. -/
def hex (f : Flags) (count : Nat) (s : List Char) : Option (Primitive × List Char) :=
  match skip f s with
  | [] => none
  | '\x7b' :: s => do
    let (n, s) ← hexBraced f 0 false (s.length + 1) (skip f s)
    some (.char (← scalar? n) false, s)
  | s => do
    let (n, s) ← hexDigits f 0 count s
    some (.char (← scalar? n) (count == 2), s)

/-- Closes a set under change of case if case is ignored, then takes its complement if asked. In
byte mode a set has to stay within ASCII. -/
def finishSet (f : Flags) (negated : Bool) (set : Ranges) : Option Ranges :=
  if f.unicode then
    let set := if f.ignoreCase then CharSet.foldCase set else CharSet.normal set
    some (if negated then CharSet.complement set else set)
  else
    let set := if f.ignoreCase then CharSet.foldAscii set else CharSet.normal set
    if negated || !CharSet.isAscii set then none else some set

/-- The text up to a closing brace. -/
def braced (f : Flags) (done : List Char) :
    (fuel : Nat) → List Char → Option (List Char × List Char)
  | 0, _ => none
  | fuel + 1, s =>
    match s with
    | [] => none
    | '\x7d' :: s => some (done.reverse, s)
    | c :: s => braced f (c :: done) fuel (skip f s)

/-- The text before `!=`, and that after it. -/
def cutUnequal? : List Char → Option (List Char × List Char)
  | [] => none
  | '!' :: '=' :: s => some ([], s)
  | c :: s => (cutUnequal? s).map fun (a, b) => (c :: a, b)

/-- The class that the text in braces names, and whether it is its complement. -/
def namedClass? (s : List Char) : Option (Bool × Ranges) :=
  let value (negated : Bool) (name value : List Char) :=
    (CharSet.valueClass? (CharSet.plainName name) (CharSet.plainName value)).map (negated, ·)
  match cutUnequal? s with
  | some (name, v) => value true name v
  | none =>
    match Text.cutAt? ':' s with
    | some (name, v) => value false name v
    | none =>
      match Text.cutAt? '=' s with
      | some (name, v) => value false name v
      | none => (CharSet.class? (CharSet.plainName s)).map (false, ·)

/-- A class by name, after its letter. -/
def unicodeClass (f : Flags) (negated : Bool) (s : List Char) : Option (Primitive × List Char) := do
  let (cls, s) ← match skip f s with
    | [] => none
    | '\x7b' :: s => do
      let (name, s) ← braced f [] (s.length + 1) (skip f s)
      some (← namedClass? name, s)
    | c :: s => do
      if c == '\\' then none
      else
        let set ← CharSet.category? (CharSet.plainName [c])
        some ((false, set), skip f s)
  if !f.unicode then none
  else some (.set (← finishSet f (negated != cls.1) cls.2), s)

/-- A class of one letter; capital letters stand for complements. -/
def letterClass (f : Flags) (c : Char) (s : List Char) : Option (Primitive × List Char) := do
  let set := match c.toLower, f.unicode && !f.script with
    | 's', false => if f.script then CharSet.scriptSpace else CharSet.asciiSpace
    | 'd', true => CharSet.digit
    | 'd', false => CharSet.asciiDigit
    | 's', true => CharSet.space
    | _, true => CharSet.word
    | _, false => CharSet.asciiWord
  if !c.isUpper then some (.set set, s)
  else if f.unicode then some (.set (CharSet.complement set), s)
  else none

/-- The letters in braces after a word boundary, up to the closing brace. -/
def boundaryLetters (f : Flags) (done : List Char) : (fuel : Nat) → List Char →
    Option (String × List Char)
  | 0, _ => none
  | fuel + 1, s =>
    match s with
    | [] => none
    | '\x7d' :: s => some (String.ofList done.reverse, s)
    | c :: s =>
      if c.isAlpha || c == '-' then boundaryLetters f (c :: done) fuel (skip f s) else none

/-- A word boundary, or one of its halves named in braces. Braces that hold no letters are left for
a count. -/
def boundary (f : Flags) (s : List Char) : Option (Primitive × List Char) :=
  let ascii := !f.unicode
  match s with
  | '\x7b' :: inner =>
    match skip f inner with
    | [] => none
    | c :: s' =>
      if c.isAlpha || c == '-' then do
        let (name, s) ← boundaryLetters f [] (inner.length + 1) (c :: s')
        let l ← match name with
          | "start" => some (Look.wordStart ascii)
          | "end" => some (Look.wordStop ascii)
          | "start-half" => some (Look.wordStartHalf ascii)
          | "end-half" => some (Look.wordStopHalf ascii)
          | _ => none
        some (.look l, s)
      else some (.look (.wordBoundary ascii), s)
  | s => some (.look (.wordBoundary ascii), s)

/-- An escape after its backslash. -/
def escape (f : Flags) (s : List Char) : Option (Primitive × List Char) :=
  let ascii := !f.unicode
  match s with
  | [] => none
  | c :: s =>
    if Text.isDigit c then none
    else if c == 'x' then hex f 2 s
    else if c == 'u' then hex f 4 s
    else if c == 'U' then hex f 8 s
    else if c == 'p' || c == 'P' then unicodeClass f (c == 'P') s
    else if "dswDSW".toList.contains c then letterClass f c s
    else if isEscapable c then some (.char c false, s)
    else match c with
      | 'a' => some (.char '\x07' false, s)
      | 'f' => some (.char '\x0c' false, s)
      | 't' => some (.char '\t' false, s)
      | 'n' => some (.char '\n' false, s)
      | 'r' => some (.char '\r' false, s)
      | 'v' => some (.char '\x0b' false, s)
      | 'A' => some (.look .start, s)
      | 'z' => some (.look .stop, s)
      | 'b' => boundary f s
      | 'B' => some (.look (.noWordBoundary ascii), s)
      | '<' => some (.look (.wordStart ascii), s)
      | '>' => some (.look (.wordStop ascii), s)
      | _ => none

/-! ## Characters and classes outside brackets -/

/-- The set that matches a character. -/
def charSet? (f : Flags) (c : Char) (isByte : Bool) : Option Ranges :=
  let one : Ranges := [(c.toNat, c.toNat)]
  if f.unicode then some (if f.ignoreCase then CharSet.foldCase one else one)
  else if isByte && c.toNat ≥ 128 then none
  else some (if f.ignoreCase && c.toNat < 128 then CharSet.foldAscii one else one)

def primitive? (f : Flags) : Primitive → Option Expr
  | .char c isByte => (charSet? f c isByte).map .set
  | .set ranges => some (.set ranges)
  | .look l => some (.look l)
  | .dot =>
    if !f.unicode then none
    else if f.dotAll then some (.set [(0, CharSet.last)])
    else if f.carriageReturns then some (.set (CharSet.complement [(10, 10), (13, 13)]))
    else some (.set (CharSet.complement [(10, 10)]))

/-! ## Brackets -/

/-- The character that an end of a range stands for; in byte mode an ASCII one. -/
def rangeEnd? (f : Flags) : Primitive → Option Nat
  | .char c _ => if f.unicode || c.toNat < 128 then some c.toNat else none
  | _ => none

def classItem (f : Flags) (s : List Char) : Option (Primitive × List Char) :=
  match s with
  | [] => none
  | '\\' :: s => escape f s
  | c :: s => some (.char c false, s)

/-- An item of a class as a set. -/
def itemSet? (f : Flags) (p : Primitive) : Option Ranges :=
  match p with
  | .set ranges => some ranges
  | p => (rangeEnd? f p).map fun n => [(n, n)]

/-- A character, a class or a range inside brackets. -/
def classRange (f : Flags) (s : List Char) : Option (Ranges × List Char) := do
  let (a, s) ← classItem f s
  match skip f s with
  | [] => none
  | '-' :: s =>
    match skip f s with
    | ']' :: _ | '-' :: _ => some (← itemSet? f a, '-' :: s)
    | [] => none
    | s => do
      let (b, s) ← classItem f s
      let lo ← rangeEnd? f a
      let hi ← rangeEnd? f b
      if lo ≤ hi then some ([(lo, hi)], s) else none
  | s => some (← itemSet? f a, s)

/-- A class in brackets and colons, after its opening bracket. -/
def asciiClass? (f : Flags) (s : List Char) : Option (Option Ranges × List Char) :=
  match s with
  | ':' :: s =>
    let (negated, s) := match s with
      | '^' :: s => (true, s)
      | s => (false, s)
    let name := s.takeWhile (· != ':')
    match s.dropWhile (· != ':') with
    | ':' :: ']' :: s =>
      (CharSet.named? (String.ofList name)).map fun set => (finishSet f negated set, s)
    | _ => none
  | _ => none

/-- Leading hyphens, and a leading closing bracket, stand for themselves. -/
def leading (f : Flags) (set : Ranges) : (fuel : Nat) → List Char → Ranges × List Char
  | 0, s => (set, s)
  | fuel + 1, s =>
    match s with
    | '-' :: s => leading f ((45, 45) :: set) fuel (skip f s)
    | ']' :: s' => if set.isEmpty then ([(93, 93)], skip f s') else (set, s)
    | s => (set, s)

/-- The operations between the parts of a class. -/
inductive SetOp where
  | inter
  | diff
  | symmDiff

/-- Combines what stood before an operation with the part after it. -/
def combine (f : Flags) (before : Option (Ranges × SetOp)) (part : Ranges) : Ranges :=
  match before with
  | none => part
  | some (left, op) =>
    let fold (set : Ranges) :=
      if !f.ignoreCase then set
      else if f.unicode then CharSet.foldCase set else CharSet.foldAscii set
    let left := fold left
    let part := fold part
    match op with
    | .inter => CharSet.inter left part
    | .diff => CharSet.diff left part
    | .symmDiff => CharSet.symmDiff left part

mutual

/-- A class after its opening bracket. -/
def bracketed (f : Flags) : (fuel : Nat) → List Char → Option (Ranges × List Char)
  | 0, _ => none
  | fuel + 1, s => do
    let s := skip f s
    let (negated, s) := match s with
      | '^' :: s => (true, skip f s)
      | s => (false, s)
    let (set, s) := leading f [] (s.length + 1) s
    let (set, s) ← parts f fuel none set s
    some (← finishSet f negated set, s)

/-- The parts of a class up to its closing bracket; `before` is what an operation applies to, `set`
the part under way. -/
def parts (f : Flags) : (fuel : Nat) → (before : Option (Ranges × SetOp)) → (set : Ranges) →
    List Char → Option (Ranges × List Char)
  | 0, _, _, _ => none
  | fuel + 1, before, set, s =>
    match skip f s with
    | [] => none
    | '[' :: s =>
      match asciiClass? f s with
      | some (found, s) => do parts f fuel before ((← found) ++ set) s
      | none => do
        let (inner, s) ← bracketed f fuel s
        parts f fuel before (inner ++ set) s
    | ']' :: s => some (combine f before set, s)
    | '&' :: '&' :: s => parts f fuel (some (combine f before set, .inter)) [] s
    | '-' :: '-' :: s => parts f fuel (some (combine f before set, .diff)) [] s
    | '~' :: '~' :: s => parts f fuel (some (combine f before set, .symmDiff)) [] s
    | s => do
      let (found, s) ← classRange f s
      parts f fuel before (found ++ set) s

end

/-! ## Groups -/

/-- Reads flags up to the colon or parenthesis after them. `seen` are the letters read so far,
`negated` tells whether a minus sign has been read and `bare` whether it was the last character. -/
def flagLetters (f : Flags) (seen : List Char) (negated bare : Bool) :
    List Char → Option (Flags × Bool × List Char)
  | [] => none
  | c :: s =>
    if c == ':' || c == ')' then if bare then none else some (f, seen.isEmpty, c :: s)
    else if c == '-' then if negated then none else flagLetters f seen true true s
    else if seen.contains c then none
    else
      let on := !negated
      let next (f : Flags) := flagLetters f (c :: seen) negated false s
      match c with
      | 'i' => next { f with ignoreCase := on }
      | 'm' => next { f with multiLine := on }
      | 's' => next { f with dotAll := on }
      | 'U' => next { f with swapGreed := on }
      | 'u' => next { f with unicode := on }
      | 'R' => next { f with carriageReturns := on }
      | 'x' => next { f with spaced := on }
      | _ => none

def isNameStart (c : Char) : Bool := c == '_' || Text.isAlphabetic c

def isNameChar (c : Char) : Bool :=
  c == '_' || c == '.' || c == '[' || c == ']' || Text.isAlphanumeric c

/-- The name of a group, up to a closing angle bracket. -/
def groupName (s : List Char) : Option (String × List Char) :=
  match s.takeWhile (· != '>'), s.dropWhile (· != '>') with
  | c :: name, _ :: s =>
    if isNameStart c && name.all isNameChar then some (String.ofList (c :: name), s) else none
  | _, _ => none

/-- What a parenthesis opens. -/
inductive Opening where
  /-- Flags for the rest of the group around. -/
  | flags (f : Flags)
  /-- A group with flags of its own. -/
  | plain (f : Flags)
  | numbered (name : Option String)
  | ahead (negated : Bool)

/-- What stands after an opening parenthesis. -/
def opening (f : Flags) (s : List Char) : Option (Opening × List Char) :=
  match skip f s with
  | '?' :: '=' :: s => if f.script then some (.ahead false, s) else none
  | '?' :: '!' :: s => if f.script then some (.ahead true, s) else none
  | '?' :: '<' :: '=' :: _ | '?' :: '<' :: '!' :: _ => none
  | '?' :: 'P' :: '<' :: s | '?' :: '<' :: s => do
    let (name, s) ← groupName s
    some (.numbered (some name), s)
  | '?' :: s => do
    let (f', none_, s) ← flagLetters f [] false false s
    match s with
    | ')' :: s => if none_ then none else some (.flags f', s)
    | _ :: s => some (.plain f', s)
    | [] => none
  | s => some (.numbered none, s)

/-! ## Repetition -/

/-- Whether a repetition is followed by a question mark. -/
def lazyMark (s : List Char) : Bool × List Char :=
  match s with
  | '?' :: s => (true, s)
  | s => (false, s)

/-- Bounds in braces, after the opening one. -/
def bounds (f : Flags) (s : List Char) : Option (Nat × Option Nat × List Char) := do
  let s := skip f s
  if s.isEmpty then none
  else
    let (least, s) ← decimal f s
    match s with
    | ',' :: s =>
      match skip f s with
      | '\x7d' :: s => some (← least, none, s)
      | s => do
        let least ← least
        let (most, s) ← decimal f s
        let most ← most
        match s with
        | '\x7d' :: s => if least ≤ most then some (least, some most, s) else none
        | _ => none
    | '\x7d' :: s => some (← least, ← least, s)
    | _ => none

def seqAll : List Expr → Expr
  | [] => .empty
  | [e] => e
  | e :: rest => .seq e (seqAll rest)

/-- Repeats the last piece; pieces are reversed, and `none` stands for flags. -/
def applyTimes (f : Flags) (least : Nat) (most : Option Nat) (isLazy : Bool)
    (pieces : List (Option Expr)) : Option (List (Option Expr)) :=
  match pieces with
  | some e :: rest => some (some (.times e least most (isLazy == f.swapGreed)) :: rest)
  | _ => none

/-! ## Patterns -/

mutual

/-- Alternatives up to the end of the text or a closing parenthesis. -/
def alternatives : (fuel : Nat) → State → Option (Expr × State)
  | 0, _ => none
  | fuel + 1, st => do
    let (e, st) ← concatenation fuel [] st
    match st.rest with
    | '|' :: s => do
      let (e', st) ← alternatives fuel { st with rest := s }
      some (.either e e', st)
    | _ => some (e, st)

/-- Pieces one after the other, those in `pieces` read and reversed. -/
def concatenation : (fuel : Nat) → (pieces : List (Option Expr)) → State → Option (Expr × State)
  | 0, _, _ => none
  | fuel + 1, pieces, st =>
    let f := st.flags
    let close (st : State) : Option (Expr × State) := some (seqAll (pieces.reverse.filterMap id), st)
    let push (p : Primitive) (s : List Char) : Option (Expr × State) := do
      concatenation fuel (some (← primitive? f p) :: pieces) { st with rest := s }
    let times (least : Nat) (most : Option Nat) (s : List Char) : Option (Expr × State) := do
      let (isLazy, s) := lazyMark s
      concatenation fuel (← applyTimes f least most isLazy pieces) { st with rest := s }
    match skip f st.rest with
    | [] => close { st with rest := [] }
    | ')' :: s => close { st with rest := ')' :: s }
    | '|' :: s => close { st with rest := '|' :: s }
    | '(' :: s => do
      let (opened, s) ← opening f s
      match opened with
      | .flags f' => concatenation fuel (none :: pieces) { st with flags := f', rest := s }
      | .plain f' => do
        let (e, inner) ← alternatives fuel { st with flags := f', rest := s }
        match inner.rest with
        | ')' :: s =>
          concatenation fuel (some e :: pieces) { inner with flags := f, rest := s }
        | _ => none
      | .ahead negated => do
        let (e, inner) ← alternatives fuel { st with rest := s }
        match inner.rest with
        | ')' :: s =>
          concatenation fuel (some (.ahead negated e) :: pieces) { inner with flags := f, rest := s }
        | _ => none
      | .numbered name => do
        let number := st.groups + 1
        let names := match name with
          | some n => (n, number) :: st.names
          | none => st.names
        if name.any fun n => st.names.any (·.1 == n) then none
        else
          let (e, inner) ←
            alternatives fuel { flags := f, groups := number, names := names, rest := s }
          match inner.rest with
          | ')' :: s =>
            concatenation fuel (some (.group number e) :: pieces) { inner with flags := f, rest := s }
          | _ => none
    | '[' :: s => do
      let (set, s) ← bracketed f (2 * s.length + 2) s
      concatenation fuel (some (.set set) :: pieces) { st with rest := s }
    | '?' :: s => times 0 (some 1) s
    | '*' :: s => times 0 none s
    | '+' :: s => times 1 none s
    | '\x7b' :: s => do
      let (least, most, s) ← bounds f s
      times least most (skip f s)
    | '\\' :: s => do
      let (p, s) ← escape f s
      push p s
    | '.' :: s => push .dot s
    | '^' :: s =>
      push (.look (if !f.multiLine then .start
        else if f.carriageReturns then .returnLineStart else .lineStart)) s
    | '$' :: s =>
      push (.look (if !f.multiLine then .stop
        else if f.carriageReturns then .returnLineStop else .lineStop)) s
    | c :: s => push (.char c false) s

end

end Reader

/-- The pattern that a text writes, with flags set from the start. -/
def parseWith? (flags : Flags) (source : String) : Option Source := do
  let (e, st) ← Reader.alternatives (4 * source.length + 4) { flags, rest := source.toList }
  if st.rest.isEmpty then some ⟨e, st.groups, st.names⟩ else none

def parse? (source : String) : Option Source := parseWith? {} source

def parseScript? (source : String) : Option Source := parseWith? { script := true } source

end Recast.Pattern
