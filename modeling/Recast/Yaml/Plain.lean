import Recast.Number.Reader

/-!
# Meaning of plain scalars

A plain scalar is null, a truth value, an integer or a fraction if it is written like one, and text
otherwise.
-/

namespace Recast.Yaml

/-- What a plain scalar says. -/
inductive Plain where
  | null
  | bool (b : Bool)
  | integer (i : Int)
  | double (d : Double)
  | infinity (negative : Bool)
  | notANumber
  | text
deriving DecidableEq

namespace Plain

def isNull (s : String) : Bool := s == "null" || s == "Null" || s == "NULL" || s == "~"

def bool? (s : String) : Option Bool :=
  if s == "true" || s == "True" || s == "TRUE" then some true
  else if s == "false" || s == "False" || s == "FALSE" then some false
  else none

/-- The value of digits of a base. -/
def inBase? (base : Nat) (digits : List Char) : Option Nat :=
  if digits.isEmpty then none
  else digits.foldlM
    (fun n c => (Text.hexDigit? c).bind fun d => if d < base then some (n * base + d) else none) 0

/-- The base that a prefix announces, and the digits after it. -/
def based? : List Char → Option (Nat × List Char)
  | '0' :: 'x' :: digits => some (16, digits)
  | '0' :: 'o' :: digits => some (8, digits)
  | '0' :: 'b' :: digits => some (2, digits)
  | _ => none

/-- Whether a scalar has digits only, but begins with a zero. -/
def isZeroFilled (s : List Char) : Bool :=
  match (Numeral.sign s).2 with
  | '0' :: c :: rest => (c :: rest).all Text.isDigit
  | _ => false

def magnitude? (s : List Char) : Option Nat :=
  match based? s with
  | some (base, digits) => inBase? base digits
  | none => inBase? 10 s

/-- An integer of any size. -/
def integer? (s : List Char) : Option Int :=
  if isZeroFilled s then none
  else
    let (negative, digits) := Numeral.sign s
    (magnitude? digits).map fun n => if negative then -(n : Int) else n

/-- A fraction, or a name of an infinity or of what is no number. -/
def fraction? (s : List Char) : Option Plain :=
  let isInfinity (s : List Char) : Bool :=
    s == ".inf".toList || s == ".Inf".toList || s == ".INF".toList
  let isNotANumber := s == ".nan".toList || s == ".NaN".toList || s == ".NAN".toList
  if isNotANumber then some notANumber
  else if isInfinity (Numeral.sign s).2 then some (infinity (Numeral.sign s).1)
  else (Numeral.double? s).map double

/-- What a plain scalar says; integers beyond 64 bits that fit into 128 say nothing. -/
def read? (s : String) : Option Plain :=
  if s.isEmpty || isNull s then some null
  else match bool? s with
    | some b => some (bool b)
    | none =>
      let found := match integer? s.toList with
        | some i =>
          if -Nat.pow 2 63 ≤ i && i < Nat.pow 2 64 then some (some (integer i))
          else if -Nat.pow 2 127 ≤ i && i < Nat.pow 2 128 then some none
          else none
        | none => none
      match found with
      | some result => result
      | none =>
        if isZeroFilled s.toList then some text else some ((fraction? s.toList).getD text)

end Plain

end Recast.Yaml
