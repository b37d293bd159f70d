import Recast.Number.Shortest

/-!
# JSON values

Integers of 64 bits stay integers, all other numbers are doubles. Objects keep their keys in the
order in which they were first put in.
-/

namespace Recast.Json

/-! ## Numbers -/

/-- A number: an integer in -2^63..2^64-1, or a double. -/
inductive Number where
  | integer (i : Int)
  | double (d : Double)
deriving DecidableEq, Inhabited

namespace Number

def minInteger : Int := -Nat.pow 2 63
def maxInteger : Int := Nat.pow 2 64 - 1

/-- The integer as signed 64 bits. -/
def signed? : Number → Option Int
  | integer i => if minInteger ≤ i && i < Nat.pow 2 63 then some i else none
  | double _ => none

/-- The integer as unsigned 64 bits. -/
def unsigned? : Number → Option Nat
  | integer i => if 0 ≤ i then some i.toNat else none
  | double _ => none

/-- The nearest double. -/
def toDouble : Number → Double
  | integer i => Double.ofInt i
  | double d => d

def text : Number → String
  | integer i => toString i
  | double d => d.text

end Number

/-! ## Values -/

inductive Value where
  | null
  | bool (b : Bool)
  | number (n : Number)
  | string (s : String)
  | array (items : List Value)
  | object (fields : List (String × Value))
deriving Inhabited

/-- The members of an object, in order. -/
abbrev Fields := List (String × Value)

namespace Fields

/-- The value of a key. -/
def get? (key : String) : Fields → Option Value
  | [] => none
  | (k, v) :: rest => if k == key then some v else get? key rest

/-- Gives a key a value, in its old place if it has one, else at the end. -/
def put (key : String) (value : Value) : Fields → Fields
  | [] => [(key, value)]
  | (k, v) :: rest => if k == key then (k, value) :: rest else (k, v) :: put key value rest

def has (key : String) (fields : Fields) : Bool := (get? key fields).isSome

def keys (fields : Fields) : List String := fields.map (·.1)

/-- Puts in the members one by one: a repeated key keeps its first place and its last value. -/
def ofList (members : List (String × Value)) : Fields :=
  members.foldl (fun fields (k, v) => put k v fields) []

end Fields

namespace Value

/-- The value of a key of an object. -/
def field? (key : String) : Value → Option Value
  | object fields => Fields.get? key fields
  | _ => none

def isNull : Value → Bool
  | null => true
  | _ => false

def isObject : Value → Bool
  | object _ => true
  | _ => false

def string? : Value → Option String
  | string s => some s
  | _ => none

def array? : Value → Option (List Value)
  | array items => some items
  | _ => none

def object? : Value → Option Fields
  | object fields => some fields
  | _ => none

/-- The value, unless it is null. -/
def present (v : Value) : Option Value := if v.isNull then none else some v

def ofNat (n : Nat) : Value := number (.integer n)

def ofInt (i : Int) : Value := number (.integer i)

/-- The name of the kind of a value. -/
def kindName : Value → String
  | null => "null"
  | bool _ => "boolean"
  | number _ => "number"
  | string _ => "string"
  | array _ => "array"
  | object _ => "object"

mutual

/-- The value with its objects put together member by member. -/
def merged : Value → Value
  | array items => array (mergedItems items)
  | object fields => object (Fields.ofList (mergedFields fields))
  | v => v
termination_by structural v => v

def mergedItems : List Value → List Value
  | [] => []
  | v :: vs => merged v :: mergedItems vs
termination_by structural vs => vs

def mergedFields : List (String × Value) → List (String × Value)
  | [] => []
  | (k, v) :: fs => (k, merged v) :: mergedFields fs
termination_by structural fs => fs

end

/-! ## Equality -/

mutual

/-- Whether two values are the same, key order included. -/
def same : Value → Value → Bool
  | null, null => true
  | bool a, bool b => a == b
  | number a, number b => a == b
  | string a, string b => a == b
  | array a, array b => sameItems a b
  | object a, object b => sameFields a b
  | _, _ => false
termination_by structural v => v

def sameItems : List Value → List Value → Bool
  | [], [] => true
  | v :: vs, w :: ws => same v w && sameItems vs ws
  | _, _ => false
termination_by structural vs => vs

def sameFields : List (String × Value) → List (String × Value) → Bool
  | [], [] => true
  | (k, v) :: vs, (l, w) :: ws => k == l && same v w && sameFields vs ws
  | _, _ => false
termination_by structural vs => vs

end

instance : BEq Value := ⟨same⟩

mutual

theorem eq_of_same : ∀ {v w : Value}, same v w = true → v = w
  | null, w, h => by cases w <;> simp_all [same]
  | bool _, w, h => by cases w <;> simp_all [same]
  | number _, w, h => by cases w <;> simp_all [same]
  | string _, w, h => by cases w <;> simp_all [same]
  | array vs, w, h => by
    cases w with
    | array ws => exact congrArg array (eq_of_sameItems (by simpa [same] using h))
    | _ => simp [same] at h
  | object vs, w, h => by
    cases w with
    | object ws => exact congrArg object (eq_of_sameFields (by simpa [same] using h))
    | _ => simp [same] at h
termination_by structural v => v

theorem eq_of_sameItems : ∀ {vs ws : List Value}, sameItems vs ws = true → vs = ws
  | [], ws, h => by cases ws <;> simp_all [sameItems]
  | v :: vs, ws, h => by
    cases ws with
    | nil => simp [sameItems] at h
    | cons w ws =>
      simp only [sameItems, Bool.and_eq_true] at h
      rw [eq_of_same h.1, eq_of_sameItems h.2]
termination_by structural vs => vs

theorem eq_of_sameFields : ∀ {vs ws : List (String × Value)}, sameFields vs ws = true → vs = ws
  | [], ws, h => by cases ws <;> simp_all [sameFields]
  | (k, v) :: vs, ws, h => by
    cases ws with
    | nil => simp [sameFields] at h
    | cons w ws =>
      obtain ⟨l, w⟩ := w
      simp only [sameFields, Bool.and_eq_true, beq_iff_eq] at h
      rw [h.1.1, eq_of_same h.1.2, eq_of_sameFields h.2]
termination_by structural vs => vs

end

mutual

theorem same_self : ∀ v : Value, same v v = true
  | null | bool _ | number _ | string _ => by simp [same]
  | array vs => by rw [same]; exact sameItems_self vs
  | object vs => by rw [same]; exact sameFields_self vs
termination_by structural v => v

theorem sameItems_self : ∀ vs : List Value, sameItems vs vs = true
  | [] => by rw [sameItems]
  | v :: vs => by rw [sameItems, same_self v, sameItems_self vs]; rfl
termination_by structural vs => vs

theorem sameFields_self : ∀ vs : List (String × Value), sameFields vs vs = true
  | [] => by rw [sameFields]
  | (k, v) :: vs => by rw [sameFields, same_self v, sameFields_self vs]; simp
termination_by structural vs => vs

end

instance : DecidableEq Value := fun v w =>
  if h : same v w = true then .isTrue (eq_of_same h)
  else .isFalse fun e => h (e ▸ same_self v)

end Value

end Recast.Json
