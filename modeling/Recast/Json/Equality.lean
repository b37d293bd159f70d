import Recast.Json.Value

/-!
# Equality of JSON values

Numbers are equal if they have the same value, and objects if they have equal members in
the same order. Long lists are compared more closely: there the two zeros are different numbers.
-/

namespace Recast.Json

/-- The value in units of the smallest double. -/
def Number.units : Number → Int
  | .integer i => i * Double.one
  | .double d => d.signedUnits

/-- Whether the number is a whole one. -/
def Number.isWhole : Number → Bool
  | .integer _ => true
  | .double d => d.isWhole

/-- Whether the number is the zero below zero. -/
def Number.isNegativeZero : Number → Bool
  | .integer _ => false
  | .double d => d.negative && d.signedUnits == 0

/-- Whether two numbers have the same value. -/
def Number.equivalent (a b : Number) : Bool := a.units == b.units

/-- Whether two numbers have the same value and, if it is zero, the same sign. -/
def Number.identical (a b : Number) : Bool :=
  a.equivalent b && a.isNegativeZero == b.isNegativeZero

namespace Value

section

variable (same : Number → Number → Bool)

mutual

/-- Whether two values are equal when numbers are compared as given. -/
def equalBy : Value → Value → Bool
  | null, null => true
  | bool a, bool b => a == b
  | number a, number b => same a b
  | string a, string b => a == b
  | array a, array b => equalItemsBy a b
  | object a, object b => equalFieldsBy a b
  | _, _ => false
termination_by structural v => v

def equalItemsBy : List Value → List Value → Bool
  | [], [] => true
  | v :: vs, w :: ws => equalBy v w && equalItemsBy vs ws
  | _, _ => false
termination_by structural vs => vs

/-- Whether the members are equal one by one. -/
def equalFieldsBy : List (String × Value) → List (String × Value) → Bool
  | [], [] => true
  | (k, v) :: vs, (l, w) :: ws => k == l && equalBy v w && equalFieldsBy vs ws
  | _, _ => false
termination_by structural vs => vs

end

end

/-- Whether two values are equal. -/
def equivalent : Value → Value → Bool := equalBy Number.equivalent

/-- Whether no two of the values are equal. -/
def areDistinctBy (equal : Value → Value → Bool) : List Value → Bool
  | [] => true
  | v :: vs => !vs.any (equal v) && areDistinctBy equal vs

/-- Lists beyond this length are long. -/
def longestShort : Nat := 15

/-- Whether no two of the values are equal, in a long list also by the signs of zeros. -/
def areDistinct (vs : List Value) : Bool :=
  areDistinctBy (if vs.length ≤ longestShort then equivalent else equalBy Number.identical) vs

mutual

/-- The number of levels of lists and objects. -/
def height : Value → Nat
  | array items => heightOfItems items + 1
  | object fields => heightOfFields fields + 1
  | _ => 1
termination_by structural v => v

def heightOfItems : List Value → Nat
  | [] => 0
  | v :: vs => max (height v) (heightOfItems vs)
termination_by structural vs => vs

def heightOfFields : List (String × Value) → Nat
  | [] => 0
  | (_, v) :: vs => max (height v) (heightOfFields vs)
termination_by structural vs => vs

end

mutual

/-- The number of values in a value. -/
def weight : Value → Nat
  | array items => weightOfItems items + 1
  | object fields => weightOfFields fields + 1
  | _ => 1
termination_by structural v => v

def weightOfItems : List Value → Nat
  | [] => 0
  | v :: vs => weight v + weightOfItems vs
termination_by structural vs => vs

def weightOfFields : List (String × Value) → Nat
  | [] => 0
  | (_, v) :: vs => weight v + weightOfFields vs
termination_by structural vs => vs

end

end Value

end Recast.Json
