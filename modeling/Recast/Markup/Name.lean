import Recast.Text.Basic

/-!
# Names in markup

A qualified name is a local name, after a prefix and a colon if it has one. Both parts start with a
character that may start a name.
-/

namespace Recast.Markup

def isSpace (c : Char) : Bool := c == ' ' || c == '\t' || c == '\n' || c == '\r'

/-- Characters that a document may hold. -/
def isDocumentChar (c : Char) : Bool :=
  if c.toNat < 0x20 then c == '\t' || c == '\n' || c == '\r'
  else c.toNat != 0xFFFE && c.toNat != 0xFFFF

/-- Runs of code points beyond ASCII that may start a name. -/
def nameStartRanges : List (Nat × Nat) := [
  (0xC0, 0xD6), (0xD8, 0xF6), (0xF8, 0x2FF), (0x370, 0x37D), (0x37F, 0x1FFF), (0x200C, 0x200D),
  (0x2070, 0x218F), (0x2C00, 0x2FEF), (0x3001, 0xD7FF), (0xF900, 0xFDCF), (0xFDF0, 0xFFFD),
  (0x10000, 0xEFFFF)]

/-- Runs of code points beyond ASCII that may stand in a name but not start it. -/
def nameRestRanges : List (Nat × Nat) := [(0xB7, 0xB7), (0x300, 0x36F), (0x203F, 0x2040)]

def isIn (ranges : List (Nat × Nat)) (n : Nat) : Bool := ranges.any fun r => r.1 ≤ n && n ≤ r.2

def isNameStart (c : Char) : Bool :=
  c.isAlpha || c == ':' || c == '_' || isIn nameStartRanges c.toNat

def isNameChar (c : Char) : Bool :=
  isNameStart c || Text.isDigit c || c == '-' || c == '.' || isIn nameRestRanges c.toNat

/-- A name that may hold colons. -/
def name? (s : List Char) : Option (List Char × List Char) :=
  match s with
  | [] => none
  | c :: _ => if isNameStart c then some (s.takeWhile isNameChar, s.dropWhile isNameChar) else none

structure QName where
  space : String
  loc : String
deriving DecidableEq, Repr

def isPartChar (c : Char) : Bool := c != ':' && isNameChar c

/-- A local name that does not start with a digit or the like. -/
def localName? (s : List Char) : Option String :=
  match s with
  | [] => none
  | c :: _ => if isNameStart c then some (String.ofList s) else none

/-- A qualified name. A colon in front stands for no prefix. -/
def qualifiedName? (s : List Char) : Option (QName × List Char) := do
  let first := s.takeWhile isPartChar
  match s.dropWhile isPartChar with
  | ':' :: rest =>
    let space ← if first.isEmpty then some "" else localName? first
    let loc ← localName? (rest.takeWhile isPartChar)
    some (⟨space, loc⟩, rest.dropWhile isPartChar)
  | rest => some (⟨"", ← localName? first⟩, rest)

end Recast.Markup
