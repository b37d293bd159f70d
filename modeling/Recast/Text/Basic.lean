/-!
# Words on lists of characters

Text is taken apart as a list of characters. `trim` drops surrounding blanks, `dropStart?` takes a
word off the front, `splitOn` cuts at a word, `joinWith` puts pieces together again.
-/

namespace Recast.Text

/-! ## Blanks -/

/-- The characters of the property `White_Space`. -/
def isBlank (c : Char) : Bool :=
  let n := c.toNat
  (0x9 ≤ n && n ≤ 0xD) || n == 0x20 || n == 0x85 || n == 0xA0 || n == 0x1680 ||
  (0x2000 ≤ n && n ≤ 0x200A) || n == 0x2028 || n == 0x2029 || n == 0x202F || n == 0x205F ||
  n == 0x3000

def trimStart (s : List Char) : List Char := s.dropWhile isBlank

def trimEnd (s : List Char) : List Char := (s.reverse.dropWhile isBlank).reverse

/-- Text without its surrounding blanks. -/
def trim (s : List Char) : List Char := trimEnd (trimStart s)

/-- `trim` on a string. -/
def trimmed (s : String) : String := String.ofList (trim s.toList)

/-! ## Front and back -/

/-- The rest of the text after `word`, if it starts with it. -/
def dropStart? [BEq α] : (word s : List α) → Option (List α)
  | [], s => some s
  | _ :: _, [] => none
  | w :: word, c :: s => if w == c then dropStart? word s else none

def startsWith [BEq α] (word s : List α) : Bool := (dropStart? word s).isSome

/-- The text before `word`, if it ends with it. -/
def dropEnd? [BEq α] (word s : List α) : Option (List α) :=
  (dropStart? word.reverse s.reverse).map List.reverse

/-! ## Cutting and joining -/

/-- The pieces between the occurrences of `sep`, found from the left without overlap; `acc` is the
piece under way, reversed, and `skip` counts the characters of a separator still to be passed. -/
def splitFrom (sep : List Char) : (skip : Nat) → (acc s : List Char) → List (List Char)
  | _, acc, [] => [acc.reverse]
  | skip + 1, acc, _ :: s => splitFrom sep skip acc s
  | 0, acc, c :: s =>
    if startsWith sep (c :: s) then acc.reverse :: splitFrom sep (sep.length - 1) [] s
    else splitFrom sep 0 (c :: acc) s

/-- The pieces of `s` between the occurrences of a non-empty separator. -/
def splitOn (sep s : List Char) : List (List Char) := splitFrom sep 0 [] s

/-- The pieces of `s` between the characters that satisfy `p`. -/
def splitAt (p : Char → Bool) : List Char → List (List Char)
  | [] => [[]]
  | c :: s =>
    if p c then [] :: splitAt p s
    else match splitAt p s with
      | piece :: rest => (c :: piece) :: rest
      | [] => [[c]]

/-- The text before the first `c` and the text after it. -/
def cutAt? (c : Char) : List Char → Option (List Char × List Char)
  | [] => none
  | d :: s => if d == c then some ([], s) else (cutAt? c s).map fun (a, b) => (d :: a, b)

/-- The text after the last `c`, or all of it. -/
def afterLast (c : Char) (s : List Char) : List Char :=
  (s.reverse.takeWhile (· != c)).reverse

/-- The pieces with `sep` between them. -/
def joinWith (sep : String) : List String → String
  | [] => ""
  | [piece] => piece
  | piece :: rest => piece ++ sep ++ joinWith sep rest

/-! ## ASCII letters and digits -/

def isDigit (c : Char) : Bool := '0' ≤ c && c ≤ '9'

def asciiLower (c : Char) : Char := if 'A' ≤ c && c ≤ 'Z' then Char.ofNat (c.toNat + 32) else c

/-- The number a list of decimal digits writes. -/
def digitsValue (s : List Char) : Nat := s.foldl (fun n c => n * 10 + (c.toNat - 48)) 0

/-- A non-empty run of decimal digits, read as a number. -/
def natural? (s : List Char) : Option Nat :=
  if s.isEmpty || !s.all isDigit then none else some (digitsValue s)

/-- The value of a hexadecimal digit. -/
def hexDigit? (c : Char) : Option Nat :=
  if '0' ≤ c && c ≤ '9' then some (c.toNat - 48)
  else if 'a' ≤ c && c ≤ 'f' then some (c.toNat - 87)
  else if 'A' ≤ c && c ≤ 'F' then some (c.toNat - 55)
  else none

/-- The `i`-th lower-case hexadecimal digit. -/
def hexChar (i : Nat) : Char := Char.ofNat (if i < 10 then 48 + i else 87 + i)

/-- At least `width` decimal digits, filled up in front with `fill`. -/
def padLeft (fill : Char) (width : Nat) (s : String) : String :=
  String.ofList (List.replicate (width - s.length) fill) ++ s

end Recast.Text
