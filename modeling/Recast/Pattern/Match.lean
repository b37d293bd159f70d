import Recast.Pattern.Program
import Recast.Pattern.Reader

/-!
# Matching and replacing

`find?` gives the leftmost match, and of several that start there the preferred one. `replaceAll`
replaces matches from left to right, with groups put into the replacement by number or name.
-/

namespace Recast.Pattern

/-- Bounds of the whole match and of its groups, the latest first. -/
abbrev Saves := List (Nat × Nat)

/-- A pattern ready to match. -/
structure Compiled where
  source : Source
  program : Program
  entry : Nat

namespace Match

def isWordAt (ascii : Bool) (text : Array Char) (i : Nat) : Bool :=
  match text[i]? with
  | some c => CharSet.contains (if ascii then CharSet.asciiWord else CharSet.word) c.toNat
  | none => false

/-- The character before a place. -/
def before (text : Array Char) (i : Nat) : Option Char := if i == 0 then none else text[i - 1]?

def wordBefore (ascii : Bool) (text : Array Char) (i : Nat) : Bool :=
  i != 0 && isWordAt ascii text (i - 1)

/-- Whether a condition holds at a place. -/
def holds (text : Array Char) (i : Nat) : Look → Bool
  | .start => i == 0
  | .stop => i == text.size
  | .lineStart => i == 0 || before text i == some '\n'
  | .lineStop => i == text.size || text[i]? == some '\n'
  | .returnLineStart =>
    i == 0 || before text i == some '\n' || (before text i == some '\r' && text[i]? != some '\n')
  | .returnLineStop =>
    i == text.size || text[i]? == some '\r' || (text[i]? == some '\n' && before text i != some '\r')
  | .wordBoundary a => wordBefore a text i != isWordAt a text i
  | .noWordBoundary a => wordBefore a text i == isWordAt a text i
  | .wordStart a => !wordBefore a text i && isWordAt a text i
  | .wordStop a => wordBefore a text i && !isWordAt a text i
  | .wordStartHalf a => !wordBefore a text i
  | .wordStopHalf a => !isWordAt a text i

/-- A state at a place, and the groups saved on the way there. -/
structure Thread where
  state : Nat
  place : Nat
  saves : Saves

/-- Follows the threads in order of preference; a state is entered once at most at each place. -/
def run (p : Program) (text : Array Char) : (fuel : Nat) → (visited : Array Bool) → List Thread →
    Option (Nat × Saves)
  | 0, _, _ => none
  | _, _, [] => none
  | fuel + 1, visited, t :: rest =>
    let mark := t.state * (text.size + 1) + t.place
    if visited[mark]?.getD true then run p text fuel visited rest
    else
      let visited := visited.set! mark true
      match p[t.state]? with
      | none => run p text fuel visited rest
      | some .accept => some (t.place, t.saves)
      | some (.set ranges next) =>
        match text[t.place]? with
        | some c =>
          if CharSet.contains ranges c.toNat then
            run p text fuel visited ({ t with state := next, place := t.place + 1 } :: rest)
          else run p text fuel visited rest
        | none => run p text fuel visited rest
      | some (.look l next) =>
        if holds text t.place l then run p text fuel visited ({ t with state := next } :: rest)
        else run p text fuel visited rest
      | some (.save slot next) =>
        run p text fuel visited
          ({ t with state := next, saves := (slot, t.place) :: t.saves } :: rest)
      | some (.ahead negated entry next) =>
        let found := (run p text fuel (visited.map fun _ => false) [⟨entry, t.place, []⟩]).isSome
        if found != negated then run p text fuel visited ({ t with state := next } :: rest)
        else run p text fuel visited rest
      | some (.choice nexts) =>
        run p text fuel visited (nexts.map (fun n => { t with state := n }) ++ rest)

/-- The number of successors of all states, and one for each. -/
def edges (p : Program) : Nat :=
  p.foldl (fun n s => n + match s with
    | .choice nexts => nexts.length + 1
    | _ => 2) 1

/-- The preferred match that starts at a place. -/
def at? (c : Compiled) (text : Array Char) (start : Nat) : Option (Nat × Saves) :=
  run c.program text (edges c.program * (text.size + 2))
    (Array.replicate (c.program.size * (text.size + 1)) false) [⟨c.entry, start, []⟩]

/-- The first match that starts at one of `count` places from `start` on. -/
def from? (c : Compiled) (text : Array Char) : (count start : Nat) → Option (Nat × Nat × Saves)
  | 0, _ => none
  | count + 1, start =>
    match at? c text start with
    | some (stop, saves) => some (start, stop, saves)
    | none => from? c text count (start + 1)

/-- The leftmost match at or after a place: its start, its end and its groups. -/
def find? (c : Compiled) (text : Array Char) (start : Nat) : Option (Nat × Nat × Saves) :=
  from? c text (text.size + 1 - start) start

end Match

def compile (s : Source) : Compiled :=
  let (entry, program) := Program.ofExpr s.expr
  ⟨s, program, entry⟩

def compile? (source : String) : Option Compiled := (parse? source).map compile

def compileScript? (source : String) : Option Compiled := (parseScript? source).map compile

/-- Whether the pattern matches somewhere in the text. -/
def Compiled.occursIn (c : Compiled) (text : String) : Bool :=
  (Match.find? c text.toList.toArray 0).isSome

namespace Replacement

/-- The pieces of a replacement: text, or a group. -/
inductive Piece where
  | text (c : Char)
  | number (n : Nat)
  | name (s : String)

def isNameChar (c : Char) : Bool := c.isAlphanum || c == '_'

/-- A reference to a group by number, or else by name. -/
def reference (s : List Char) : Piece :=
  let digits := match s with
    | '+' :: s => s
    | s => s
  match Text.natural? digits with
  | some n => if n < Nat.pow 2 64 then .number n else .name (String.ofList s)
  | none => .name (String.ofList s)

/-- The pieces of a replacement. A dollar sign begins a reference, is written twice to stand for
itself, and stands for itself where no reference follows. -/
def pieces : (fuel : Nat) → List Char → List Piece
  | 0, _ => []
  | _, [] => []
  | fuel + 1, '$' :: s =>
    match s with
    | '$' :: s => .text '$' :: pieces fuel s
    | '\x7b' :: s' =>
      match s'.dropWhile (· != '\x7d') with
      | _ :: rest => reference (s'.takeWhile (· != '\x7d')) :: pieces fuel rest
      | [] => .text '$' :: pieces fuel s
    | s =>
      match s.takeWhile isNameChar with
      | [] => .text '$' :: pieces fuel s
      | name => reference name :: pieces fuel (s.dropWhile isNameChar)
  | fuel + 1, c :: s => .text c :: pieces fuel s

/-- The text of a group in a match. -/
def groupText (text : Array Char) (start stop : Nat) (saves : Saves) (n : Nat) : List Char :=
  if n == 0 then (text.extract start stop).toList
  else match saves.lookup (2 * n), saves.lookup (2 * n + 1) with
    | some a, some b => (text.extract a b).toList
    | _, _ => []

/-- The replacement of one match. -/
def expand (names : List (String × Nat)) (text : Array Char) (start stop : Nat) (saves : Saves) :
    List Piece → List Char
  | [] => []
  | .text c :: rest => c :: expand names text start stop saves rest
  | .number n :: rest =>
    groupText text start stop saves n ++ expand names text start stop saves rest
  | .name s :: rest =>
    let found := match names.lookup s with
      | some n => groupText text start stop saves n
      | none => []
    found ++ expand names text start stop saves rest

end Replacement

/-- Replaces the matches from `start` on. `copied` is where the text not yet taken over begins, and
`lastStop` where the match before ended: an empty match there does not count. -/
def replaceFrom (c : Compiled) (new : List Replacement.Piece) (text : Array Char) :
    (fuel start copied : Nat) → (lastStop : Option Nat) → List Char
  | 0, _, copied, _ => (text.extract copied text.size).toList
  | fuel + 1, start, copied, lastStop =>
    let found := match Match.find? c text start with
      | some (a, b, saves) =>
        if a == b && lastStop == some b then Match.find? c text (start + 1) else some (a, b, saves)
      | none => none
    match found with
    | none => (text.extract copied text.size).toList
    | some (a, b, saves) =>
      (text.extract copied a).toList ++
        Replacement.expand c.source.names text a b saves new ++
        replaceFrom c new text fuel b b (some b)

/-- The text with every match replaced. -/
def replaceAll (c : Compiled) (new : String) (text : String) : String :=
  let chars := text.toList.toArray
  String.ofList
    (replaceFrom c (Replacement.pieces (new.length + 1) new.toList) chars (chars.size + 2) 0 0 none)

end Recast.Pattern
