import Recast.Json.Value
import Recast.Text.Quoted
import Recast.Text.Basic

/-!
# Decoding JSON values

Records are read from objects, or from lists that hold the members in order. What a value is, when
it is not what it should be, is told by `describe`.
-/

namespace Recast.Json

/-- Why a value does not decode. -/
inductive Mismatch where
  | wrongKind (found expected : String)
  | wrongValue (found expected : String)
  | wrongLength (length : Nat) (expected : String)
  | missing (field : String)
  | unknownField (name : String) (known : List String)
  | unknownVariant (name : String) (known : List String)
deriving DecidableEq, Repr

namespace Mismatch

def marked (name : String) : String := "`" ++ name ++ "`"

/-- One of several names. -/
def oneOf : List String → String
  | [a] => marked a
  | [a, b] => marked a ++ " or " ++ marked b
  | names => "one of " ++ Text.joinWith ", " (names.map marked)

def message : Mismatch → String
  | wrongKind found expected => "invalid type: " ++ found ++ ", expected " ++ expected
  | wrongValue found expected => "invalid value: " ++ found ++ ", expected " ++ expected
  | wrongLength length expected => "invalid length " ++ toString length ++ ", expected " ++ expected
  | missing field => "missing field " ++ marked field
  | unknownField name known => "unknown field " ++ marked name ++ ", expected " ++ oneOf known
  | unknownVariant name known => "unknown variant " ++ marked name ++ ", expected " ++ oneOf known

end Mismatch

namespace Decode

/-- What a value is, for messages. -/
def describe : Value → String
  | .null => "null"
  | .bool b => "boolean " ++ Mismatch.marked (if b then "true" else "false")
  | .number (.integer i) => "integer " ++ Mismatch.marked (toString i)
  | .number (.double d) => "floating point " ++ Mismatch.marked d.text
  | .string s => "string " ++ Text.quoted s
  | .array _ => "sequence"
  | .object _ => "map"

def wrong (expected : String) (v : Value) : Except Mismatch α :=
  .error (.wrongKind (describe v) expected)

def string : Value → Except Mismatch String
  | .string s => .ok s
  | v => wrong "a string" v

def bool : Value → Except Mismatch Bool
  | .bool b => .ok b
  | v => wrong "a boolean" v

/-- A value that may be null. -/
def optional (decode : Value → Except Mismatch α) : Value → Except Mismatch (Option α)
  | .null => .ok none
  | v => (decode v).map some

def list (decode : Value → Except Mismatch α) : Value → Except Mismatch (List α)
  | .array items => items.mapM decode
  | v => wrong "a sequence" v

/-- The members of an object whose values are strings. -/
def strings : Value → Except Mismatch (List (String × String))
  | .object fields => fields.mapM fun (k, v) => (string v).map (k, ·)
  | v => wrong "a map" v

/-- One of several names: a string, or an object with the name as its only key and null as its
value. -/
def variant (known : List String) (v : Value) : Except Mismatch String :=
  let checked (name : String) : Except Mismatch String :=
    if known.contains name then .ok name else .error (.unknownVariant name known)
  match v with
  | .string name => checked name
  | .object [(name, v)] => do
    let name ← checked name
    match v with
    | .null => .ok name
    | v => wrong "unit" v
  | .object _ => .error (.wrongValue "map" "map with a single key")
  | v => wrong "string or map" v

/-! ## Records -/

/-- A record of a name: its members in order, and whether one has to be there when the record is
read from a list. -/
structure Shape where
  name : String
  members : List (String × Bool)
  closed : Bool

namespace Shape

def keys (s : Shape) : List String := s.members.map (·.1)

/-- The length a list should have. -/
def expectedLength (s : Shape) : String :=
  "struct " ++ s.name ++ " with " ++ toString s.members.length ++
    (if s.members.length == 1 then " element" else " elements")

/-- Reads the elements of a list as the members from position `i` on. -/
def readList (s : Shape) (read : α → String → Value → Except Mismatch α) (length i : Nat)
    (record : α) :
    List (String × Bool) → List Value → Except Mismatch α
  | [], [] => .ok record
  | [], _ :: _ => .error (.wrongLength length "fewer elements in array")
  | (_, needed) :: members, [] =>
    if needed then .error (.wrongLength i s.expectedLength)
    else readList s read length (i + 1) record members []
  | (key, _) :: members, v :: items => do
    readList s read length (i + 1) (← read record key v) members items

/-- Reads a record member by member, starting from `record`. -/
def decode (s : Shape) (read : α → String → Value → Except Mismatch α) (record : α) (v : Value) :
    Except Mismatch α :=
  match v with
  | .object fields =>
    fields.foldlM
      (fun record (key, v) =>
        if s.keys.contains key then read record key v
        else if s.closed then .error (.unknownField key s.keys)
        else .ok record)
      record
  | .array items => s.readList read items.length 0 record s.members items
  | v => wrong ("struct " ++ s.name) v

end Shape

/-- A member that has to be there. -/
def needed (field : String) (value : Option α) : Except Mismatch α :=
  match value with
  | some v => .ok v
  | none => .error (.missing field)

end Decode

end Recast.Json
