import Recast.Markup.Name

/-!
# Character data

Text and attribute values are written with references to characters and with line ends of several
kinds. `text?` and `attributeValue?` give what the writing stands for.
-/

namespace Recast.Markup

/-- The characters that have a name. -/
def namedChar? : String → Option Char
  | "quot" => some '"'
  | "amp" => some '&'
  | "apos" => some '\''
  | "lt" => some '<'
  | "gt" => some '>'
  | _ => none

/-- The number that digits of a base write, below 2^32. -/
def codePoint? (base : Nat) (digits : List Char) : Option Nat :=
  if digits.isEmpty then none
  else
    let n := digits.foldl (fun n c => n * base + (Text.hexDigit? c).getD 0) 0
    if n < Nat.pow 2 32 then some n else none

/-- The character of a code point; numbers that are no scalar value stand for the replacement
character. -/
def charOf? (n : Nat) : Option Char :=
  let c := if n < 0xD800 || (0xDFFF < n && n < 0x110000) then Char.ofNat n else '\ufffd'
  if isDocumentChar c then some c else none

/-- A reference to a character, after its ampersand. -/
def reference? (s : List Char) : Option (Char × List Char) := do
  let (c, rest) ← match s with
    | '#' :: 'x' :: s => do
      let isHex (c : Char) := (Text.hexDigit? c).isSome
      some (← charOf? (← codePoint? 16 (s.takeWhile isHex)), s.dropWhile isHex)
    | '#' :: s => do
      some (← charOf? (← codePoint? 10 (s.takeWhile Text.isDigit)), s.dropWhile Text.isDigit)
    | s => do
      let (name, rest) ← name? s
      some (← namedChar? (String.ofList name), rest)
  match rest with
  | ';' :: rest => some (c, rest)
  | _ => none

/-! ## Text -/

/-- Adds a character to text read so far, reversed: a carriage return, alone or before a line feed,
becomes a line feed once the character after it is known. -/
def pushText (done : List Char) (c : Char) (atEnd : Bool) : List Char :=
  match done with
  | '\r' :: before =>
    if atEnd && c == '\r' then '\n' :: '\n' :: before
    else if c == '\n' then '\n' :: before
    else c :: '\n' :: before
  | _ => if atEnd && c == '\r' then '\n' :: done else c :: done

/-- Reads text with its references. A character from a reference is taken as it is, and so is the
one character written after it. -/
def textFrom : (fuel : Nat) → (done : List Char) → (asIs : Bool) → List Char → Option (List Char)
  | _, done, _, [] => some done.reverse
  | 0, _, _, _ => none
  | fuel + 1, done, asIs, c :: s =>
    if c == '&' then
      match reference? s with
      | some (c, s) => textFrom fuel (c :: done) true s
      | none => none
    else if asIs then textFrom fuel (c :: done) false s
    else textFrom fuel (pushText done c s.isEmpty) false s

/-- The text that character data stands for, unless it has a broken reference. -/
def text? (s : List Char) : Option (List Char) := textFrom s.length [] false s

/-- The text of a section that has no references. -/
def sectionText (done : List Char) : List Char → List Char
  | [] => done.reverse
  | c :: s => sectionText (pushText done c s.isEmpty) s

/-! ## Attribute values -/

/-- The value that quoted text stands for: line ends and tabs become spaces, characters from
references stay. -/
def attributeValueFrom : (fuel : Nat) → List Char → Option (List Char)
  | _, [] => some []
  | 0, _ => none
  | fuel + 1, c :: s =>
    if c == '&' then do
      let (c, s) ← reference? s
      some (c :: (← attributeValueFrom fuel s))
    else if c == '\r' && s.head? == some '\n' then attributeValueFrom fuel s
    else do
      let c := if c == '\n' || c == '\r' || c == '\t' then ' ' else c
      some (c :: (← attributeValueFrom fuel s))

def attributeValue? (s : List Char) : Option (List Char) := attributeValueFrom s.length s

end Recast.Markup
