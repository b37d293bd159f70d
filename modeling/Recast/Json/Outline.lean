import Recast.Json.Reader

/-!
# Outlines of JSON text

An outline has the lists and objects of a document, and the texts of everything else as they are
written. Only the form of those texts counts: numbers may be of any size, codes need not stand for
characters, and lists may be nested to any depth.
-/

namespace Recast.Json

inductive Outline where
  /-- A number, a string or a word. -/
  | leaf (text : List UInt8)
  | list (items : List Outline)
  /-- Members with their keys as they are written, quotes and all. -/
  | record (members : List (List UInt8 × Outline))

namespace Outline

/-! ## Leaves -/

def isDigit (b : UInt8) : Bool := (Numeral.digit? b).isSome

/-- The text after digits, of which there is one at least. -/
def digits? : List UInt8 → Option (List UInt8)
  | [] => none
  | b :: s => if isDigit b then some (s.dropWhile isDigit) else none

/-- The text after the exponent of a number, if it has one. -/
def exponent? : List UInt8 → Option (List UInt8)
  | 101 :: s | 69 :: s =>
    match s with
    | 43 :: s | 45 :: s => digits? s
    | s => digits? s
  | s => some s

/-- The text after a number without its sign. -/
def number? (s : List UInt8) : Option (List UInt8) := do
  let s ← match s with
    | 48 :: s => some s
    | s => digits? s
  match s with
  | 46 :: s => exponent? (← digits? s)
  | s => exponent? s

/-- The bytes that a backslash may stand before, other than a code. -/
def simpleEscapes : List UInt8 := [34, 92, 47, 98, 102, 110, 114, 116]

/-- The text after a string whose opening quote was read. -/
def string? : List UInt8 → Option (List UInt8)
  | [] => none
  | 34 :: s => some s
  | 92 :: 117 :: a :: b :: c :: d :: s =>
    if [a, b, c, d].all fun digit => (Reader.hexDigit? digit).isSome then string? s else none
  | 92 :: b :: s => if simpleEscapes.contains b then string? s else none
  | b :: s => if b < 32 then none else string? s

/-- The text after a leaf. -/
def leaf? : List UInt8 → Option (List UInt8)
  | 110 :: s => Text.dropStart? [117, 108, 108] s
  | 116 :: s => Text.dropStart? [114, 117, 101] s
  | 102 :: s => Text.dropStart? [97, 108, 115, 101] s
  | 34 :: s => string? s
  | 45 :: s => number? s
  | s => number? s

/-- What comes before the rest of a text. -/
def before (rest s : List UInt8) : List UInt8 := s.take (s.length - rest.length)

/-! ## Documents -/

mutual

/-- One value and the text after it. -/
def value? : (fuel : Nat) → List UInt8 → Option (Outline × List UInt8)
  | 0, _ => none
  | fuel + 1, s =>
    match Reader.skip s with
    | 91 :: s =>
      match Reader.skip s with
      | 93 :: s => some (list [], s)
      | s => (items? fuel s).map fun (items, s) => (list items, s)
    | 123 :: s =>
      match Reader.skip s with
      | 125 :: s => some (record [], s)
      | s => (members? fuel s).map fun (members, s) => (record members, s)
    | s => (leaf? s).map fun rest => (leaf (before rest s), rest)

/-- Items up to the end of their list. -/
def items? : (fuel : Nat) → List UInt8 → Option (List Outline × List UInt8)
  | 0, _ => none
  | fuel + 1, s => do
    let (item, s) ← value? fuel s
    match Reader.skip s with
    | 44 :: s => (items? fuel s).map fun (items, s) => (item :: items, s)
    | 93 :: s => some ([item], s)
    | _ => none

/-- Members up to the end of their object. -/
def members? : (fuel : Nat) → List UInt8 → Option (List (List UInt8 × Outline) × List UInt8)
  | 0, _ => none
  | fuel + 1, s =>
    match Reader.skip s with
    | 34 :: s => do
      let rest ← string? s
      let key := 34 :: before rest s
      match Reader.skip rest with
      | 58 :: s =>
        let (v, s) ← value? fuel s
        match Reader.skip s with
        | 44 :: s => (members? fuel s).map fun (members, s) => ((key, v) :: members, s)
        | 125 :: s => some ([(key, v)], s)
        | _ => none
      | _ => none
    | _ => none

end

/-- The outline of a document: one value and blanks around it. -/
def ofBytes? (bytes : List UInt8) : Option Outline :=
  match value? (2 * bytes.length + 2) bytes with
  | some (outline, s) => if (Reader.skip s).isEmpty then some outline else none
  | none => none

/-! ## Parts -/

/-- The value of a leaf, if it can be read. -/
def value : Outline → Option Value
  | leaf text => (parseBytes text).toOption
  | _ => none

def text? (o : Outline) : Option String := o.value.bind Value.string?

/-- The members of an object whose keys can all be read. -/
def keyed? (members : List (List UInt8 × Outline)) : Option (List (String × Outline)) :=
  members.mapM fun (key, v) => (leaf key).text?.map fun key => (key, v)

end Outline

end Recast.Json
