import Recast.Pattern.Property

/-!
# Sets of characters

Sets as sorted ranges that do not touch, with union, complement, intersection and difference, and
closure under change of case.
-/

namespace Recast.Pattern.CharSet

def last : Nat := 0x10FFFF

/-- Joins neighbouring ranges of a sorted list. -/
def join : Ranges → Ranges
  | [] => []
  | [r] => [r]
  | a :: b :: rest =>
    if b.1 ≤ a.2 + 1 then join ((a.1, max a.2 b.2) :: rest) else a :: join (b :: rest)
termination_by rs => rs.length

/-- Sorted ranges that neither overlap nor touch. -/
def normal (rs : Ranges) : Ranges :=
  join ((rs.filter fun r => r.1 ≤ r.2).mergeSort fun a b => a.1 ≤ b.1)

def union (a b : Ranges) : Ranges := normal (a ++ b)

/-- The gaps of a normal set from `next` on. -/
def gaps (next : Nat) : Ranges → Ranges
  | [] => if next ≤ last then [(next, last)] else []
  | (lo, hi) :: rest =>
    if next < lo then (next, lo - 1) :: gaps (hi + 1) rest else gaps (hi + 1) rest

def complement (a : Ranges) : Ranges := gaps 0 (normal a)

def inter (a b : Ranges) : Ranges := complement (union (complement a) (complement b))

def diff (a b : Ranges) : Ranges := inter a (complement b)

def symmDiff (a b : Ranges) : Ranges := union (diff a b) (diff b a)

def contains (a : Ranges) (n : Nat) : Bool := a.any fun r => r.1 ≤ n && n ≤ r.2

def isAscii (a : Ranges) : Bool := a.all fun r => r.2 < 128

/-- The set with everything that differs only in case from one of its characters. -/
def foldCase (a : Ranges) : Ranges :=
  let extra := Property.caseGroups.flatMap fun group =>
    if group.any (contains a) then group.map fun n => (n, n) else []
  union a extra

/-- The set with the other case of its ASCII letters. -/
def foldAscii (a : Ranges) : Ranges :=
  let letters := (List.range 26).flatMap fun i =>
    if contains a (65 + i) || contains a (97 + i) then [(65 + i, 65 + i), (97 + i, 97 + i)] else []
  union a letters

/-! ## Classes -/

def property (name : String) : Ranges := (Property.find? name Property.binary).getD []

def category (name : String) : Ranges := (Property.find? name Property.categories).getD []

def digit : Ranges := category "nd"

def space : Ranges := property "whitespace"

/-- Letters, marks, decimal digits, connectors and the joiners. -/
def word : Ranges :=
  normal (property "alphabetic" ++ category "m" ++ digit ++ category "pc" ++ property "joincontrol")

def asciiDigit : Ranges := [(48, 57)]

def asciiSpace : Ranges := [(9, 13), (32, 32)]

def asciiWord : Ranges := [(48, 57), (65, 90), (95, 95), (97, 122)]

/-- The blanks of scripts. -/
def scriptSpace : Ranges :=
  [(9, 13), (32, 32), (0xA0, 0xA0), (0x2003, 0x2003), (0x2029, 0x2029), (0xFEFF, 0xFEFF)]

/-- The classes in brackets and colons. -/
def named? : String → Option Ranges
  | "alnum" => some [(48, 57), (65, 90), (97, 122)]
  | "alpha" => some [(65, 90), (97, 122)]
  | "ascii" => some [(0, 127)]
  | "blank" => some [(9, 9), (32, 32)]
  | "cntrl" => some [(0, 31), (127, 127)]
  | "digit" => some asciiDigit
  | "graph" => some [(33, 126)]
  | "lower" => some [(97, 122)]
  | "print" => some [(32, 126)]
  | "punct" => some [(33, 47), (58, 64), (91, 96), (123, 126)]
  | "space" => some asciiSpace
  | "upper" => some [(65, 90)]
  | "word" => some asciiWord
  | "xdigit" => some [(48, 57), (65, 70), (97, 102)]
  | _ => none

/-- The name of a property without case, blanks, hyphens and underscores, and without a leading
`is`. -/
def plainName (s : List Char) : String :=
  let s := (s.filter fun c => c != '_' && c != '-' && !Text.isBlank c).map Text.asciiLower
  String.ofList <| match s with
    | 'i' :: 's' :: rest => if rest == ['c'] then s else rest
    | s => s

/-- Classes that are no general category but are named like one. -/
def special? : String → Option Ranges
  | "any" => some [(0, last)]
  | "ascii" => some [(0, 127)]
  | "assigned" => (Property.find? "cn" Property.categories).map complement
  | _ => none

def category? (name : String) : Option Ranges :=
  (special? name).or (Property.find? name Property.categories)

/-- The class of a name: a binary property, a general category or a script. -/
def class? (name : String) : Option Ranges :=
  let binary := if ["cf", "sc", "lc"].contains name then none
    else Property.find? name Property.binary
  (binary.or (category? name)).or (Property.find? name Property.scripts)

/-- The class of a value of a property. -/
def valueClass? (property value : String) : Option Ranges :=
  match property with
  | "gc" | "generalcategory" | "category" => category? value
  | "sc" | "script" => Property.find? value Property.scripts
  | _ => none

end Recast.Pattern.CharSet
