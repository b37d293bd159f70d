import Recast.Json.Value
import Recast.Text.Basic

/-!
# Writing JSON

`compact` writes a value without blanks, `indented` with two blanks per level. Only quotes,
backslashes and control characters are escaped.
-/

namespace Recast.Json

/-- A character inside a written string. -/
def escape (c : Char) : String :=
  if c == '"' then "\\\""
  else if c == '\\' then "\\\\"
  else if c == '\n' then "\\n"
  else if c == '\t' then "\\t"
  else if c == '\r' then "\\r"
  else if c == '\x08' then "\\b"
  else if c == '\x0c' then "\\f"
  else if c.toNat < 0x20 then
    "\\u00" ++ String.ofList [Text.hexChar (c.toNat / 16), Text.hexChar (c.toNat % 16)]
  else String.ofList [c]

/-- A string in quotes. -/
def quoted (s : String) : String :=
  s.toList.foldl (fun out c => out ++ escape c) "\"" ++ "\""

/-! ## Without blanks -/

mutual

/-- The text of a value after the text `out`. -/
def writeCompact (out : String) : Value → String
  | .null => out ++ "null"
  | .bool b => out ++ if b then "true" else "false"
  | .number n => out ++ n.text
  | .string s => out ++ quoted s
  | .array items => writeItems (out ++ "[") true items ++ "]"
  | .object fields => writeFields (out ++ "\x7b") true fields ++ "\x7d"
termination_by structural v => v

def writeItems (out : String) (first : Bool) : List Value → String
  | [] => out
  | v :: vs => writeItems (writeCompact (if first then out else out ++ ",") v) false vs
termination_by structural vs => vs

def writeFields (out : String) (first : Bool) : List (String × Value) → String
  | [] => out
  | (k, v) :: vs =>
    writeFields (writeCompact ((if first then out else out ++ ",") ++ quoted k ++ ":") v) false vs
termination_by structural vs => vs

end

/-- The value without blanks. -/
def compact (v : Value) : String := writeCompact "" v

/-! ## Indented -/

def indentation (level : Nat) : String := String.ofList (List.replicate (2 * level) ' ')

mutual

/-- The text of a value on `level`, after the text `out`. -/
def writeIndented (out : String) (level : Nat) : Value → String
  | .null => out ++ "null"
  | .bool b => out ++ if b then "true" else "false"
  | .number n => out ++ n.text
  | .string s => out ++ quoted s
  | .array [] => out ++ "[]"
  | .array items =>
    writeItemLines (out ++ "[") true (level + 1) items ++ "\n" ++ indentation level ++ "]"
  | .object [] => out ++ "\x7b\x7d"
  | .object fields =>
    writeFieldLines (out ++ "\x7b") true (level + 1) fields ++ "\n" ++ indentation level ++ "\x7d"
termination_by structural v => v

def writeItemLines (out : String) (first : Bool) (level : Nat) : List Value → String
  | [] => out
  | v :: vs =>
    let out := (if first then out ++ "\n" else out ++ ",\n") ++ indentation level
    writeItemLines (writeIndented out level v) false level vs
termination_by structural vs => vs

def writeFieldLines (out : String) (first : Bool) (level : Nat) : List (String × Value) → String
  | [] => out
  | (k, v) :: vs =>
    let out :=
      (if first then out ++ "\n" else out ++ ",\n") ++ indentation level ++ quoted k ++ ": "
    writeFieldLines (writeIndented out level v) false level vs
termination_by structural vs => vs

end

/-- The value with one member or element a line. -/
def indented (v : Value) : String := writeIndented "" 0 v

end Recast.Json
