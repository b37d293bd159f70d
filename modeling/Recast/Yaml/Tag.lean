import Recast.Text.Utf8
import Recast.Yaml.Cursor

/-!
# Tags, anchors and directives

A tag is a handle and a suffix. A handle stands for the beginning of an address, which a directive
may change.
-/

namespace Recast.Yaml

/-- Characters of tags; some stand in full addresses only. -/
def isTagChar (full : Bool) (c : Char) : Bool :=
  isWordChar c || ";/?:@&=+$.%!~*'()".toList.contains c || (full && ",[]".toList.contains c)

/-- One byte written as two digits after a percent sign. -/
def escapedByte? : List Char → Option (UInt8 × List Char)
  | '%' :: a :: b :: rest => do
    some (UInt8.ofNat ((← Text.hexDigit? a) * 16 + (← Text.hexDigit? b)), rest)
  | _ => none

/-- The number of bytes of a character from its first byte. -/
def byteCount? (b : UInt8) : Option Nat :=
  if b < 0x80 then some 1
  else if 0xC0 ≤ b && b < 0xE0 then some 2
  else if 0xE0 ≤ b && b < 0xF0 then some 3
  else if 0xF0 ≤ b && b < 0xF8 then some 4
  else none

def escapedBytes? : (n : Nat) → List Char → Option (List UInt8 × List Char)
  | 0, s => some ([], s)
  | n + 1, s => do
    let (b, s) ← escapedByte? s
    let (bytes, s) ← escapedBytes? n s
    some (b :: bytes, s)

/-- A character written as percent signs and digits. -/
def escapedChar? (s : List Char) : Option (List Char × List Char) := do
  let (first, _) ← escapedByte? s
  let (bytes, rest) ← escapedBytes? (← byteCount? first) s
  some (← Text.Utf8.decode? bytes, rest)

/-- The characters of an address and the text after it. -/
def address? (full : Bool) : (fuel : Nat) → List Char → Option (List Char × List Char)
  | 0, _ => none
  | _ + 1, [] => some ([], [])
  | fuel + 1, c :: s =>
    if !isTagChar full c then some ([], c :: s)
    else do
      let (text, s) ← if c == '%' then escapedChar? (c :: s) else some ([c], s)
      let (more, s) ← address? full fuel s
      some (text ++ more, s)

/-- An address that is not empty. -/
def someAddress? (full : Bool) (s : List Char) : Option (List Char × List Char) :=
  match address? full (s.length + 1) s with
  | some ([], _) => none
  | found => found

/-- The handle and the suffix of a tag, and the text after it. A tag without a handle of its own is
local. -/
def tag? (inFlow : Bool) (s : List Char) : Option ((String × String) × List Char) := do
  let ((handle, suffix), rest) ← match s with
    | '!' :: '<' :: s => do
      let (suffix, s) ← someAddress? true s
      some ((([] : List Char), suffix), ← Text.dropStart? ['>'] s)
    | '!' :: s =>
      let word := s.takeWhile isWordChar
      match s.dropWhile isWordChar with
      | '!' :: s => do
        let (suffix, s) ← someAddress? false s
        some (('!' :: word ++ ['!'], suffix), s)
      | s => do
        let (more, s) ← address? false (s.length + 1) s
        some (if word.isEmpty && more.isEmpty then ([], ['!']) else (['!'], word ++ more), s)
    | _ => none
  if endsWord rest || (inFlow && rest.head? == some ',') then
    some ((String.ofList handle, String.ofList suffix), rest)
  else none

/-- The name after the mark of an anchor or an alias, and the text after it. -/
def anchorName? (s : List Char) : Option (String × List Char) :=
  let name := s.takeWhile isWordChar
  let rest := s.dropWhile isWordChar
  let closed := endsWord rest || rest.head?.any fun c => "?:,]\x7d%@`".toList.contains c
  if name.isEmpty || !closed then none else some (String.ofList name, rest)

/-! ## Directives -/

inductive Directive where
  /-- The version of the format. -/
  | version (major minor : Nat)
  /-- What a handle stands for. -/
  | handle (name meaning : String)

def skipBlanks (s : List Char) : List Char := s.dropWhile isSpaceOrTab

/-- A number of at most nine digits. -/
def versionNumber? (s : List Char) : Option (Nat × List Char) :=
  let digits := s.takeWhile Text.isDigit
  if digits.isEmpty || digits.length > 9 then none
  else some (Text.digitsValue digits, s.dropWhile Text.isDigit)

/-- A handle as a directive names it. -/
def handleName? : List Char → Option (List Char × List Char)
  | '!' :: s =>
    match s.takeWhile isWordChar, s.dropWhile isWordChar with
    | word, '!' :: s => some ('!' :: word ++ ['!'], s)
    | [], s => some (['!'], s)
    | _, _ => none
  | _ => none

/-- A directive after its mark, and the text after it on its line. -/
def directive? (s : List Char) : Option (Directive × List Char) := do
  let name := s.takeWhile isWordChar
  let s := s.dropWhile isWordChar
  if name.isEmpty || !endsWord s then none
  else match String.ofList name with
    | "YAML" => do
      let (major, s) ← versionNumber? (skipBlanks s)
      let (minor, s) ← versionNumber? (← Text.dropStart? ['.'] s)
      some (.version major minor, s)
    | "TAG" => do
      let (name, s) ← handleName? (skipBlanks s)
      if !s.head?.any isSpaceOrTab then none
      else
        let (meaning, s) ← someAddress? true (skipBlanks s)
        if endsWord s then some (.handle (String.ofList name) (String.ofList meaning), s) else none
    | _ => none

end Recast.Yaml
