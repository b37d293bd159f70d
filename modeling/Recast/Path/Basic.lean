import Recast.Text.Basic
import Recast.Text.Letter

/-!
# Paths

A path starts at the document or at the current value and selects step by step: members by name,
elements by position from either end, all of them, or everything below.
-/

namespace Recast

/-- Where a path starts: the document (`$`) or the current value (`@`). -/
inductive Path.Root where
  | document
  | current
deriving DecidableEq, Repr

/-- One step of a path. -/
inductive Path.Selector where
  /-- The member of a name. -/
  | child (name : String)
  /-- The element at a position. -/
  | index (i : Nat)
  /-- The element at a position counted from the end, the last one being 1. -/
  | fromEnd (i : Nat)
  /-- Every member or element. -/
  | wildcard
  /-- The value itself and everything below it. -/
  | descent
deriving DecidableEq, Repr

structure Path where
  root : Path.Root
  selectors : List Path.Selector
deriving DecidableEq, Repr

namespace Path

/-- Whether a selector finds at most one value. -/
def Selector.isDefinite : Selector → Bool
  | child _ | index _ | fromEnd _ => true
  | wildcard | descent => false

/-- Whether the path finds at most one value. -/
def isDefinite (p : Path) : Bool := p.selectors.all Selector.isDefinite

/-! ## Names -/

/-- The characters of a name that is written without quotes. -/
def isNameChar (c : Char) : Bool := Text.isAlphanumeric c || c == '_' || c == '-'

def isNameStart (c : Char) : Bool := Text.isAlphabetic c || c == '_'

/-- Whether a name is printed without quotes. -/
def isPlain (name : List Char) : Bool :=
  match name with
  | [] => false
  | c :: _ => isNameStart c && name.all isNameChar

/-! ## Bounds -/

/-- Positions are below 2^64. -/
def indexLimit : Nat := Nat.pow 2 64

/-- The position after one; positions wrap. -/
def nextIndex (i : Nat) : Nat := (i + 1) % indexLimit

end Path

end Recast
