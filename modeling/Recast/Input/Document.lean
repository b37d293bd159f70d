import Recast.Input.Format
import Recast.Json.Reader
import Recast.Markup.Reader
import Recast.Text.Utf8

/-!
# Input documents
-/

namespace Recast.Input

open Json (Value)
open Markup (Node)

inductive Document where
  | json (v : Value)
  | markup (root : Node)

/-- Why bytes are no document of a format. What is wrong with markup is not told. -/
inductive Fault where
  | json (fault : Json.Fault)
  | markup

def Fault.format : Fault → Format
  | json _ => .json
  | markup => .markup

def Fault.message (f : Fault) : String :=
  let head := "Invalid " ++ f.format.name ++ " input:"
  match f with
  | json fault => head ++ " " ++ fault.message
  | markup => head

namespace Document

def format : Document → Format
  | json _ => .json
  | markup _ => .markup

/-- The document that bytes of a format hold. -/
def parse (format : Format) (bytes : List UInt8) : Except Fault Document :=
  match format with
  | .json =>
    match Json.parseBytes bytes with
    | .ok v => .ok (json v)
    | .error fault => .error (.json fault)
  | .markup =>
    match (Text.Utf8.decode? bytes).bind Markup.parse? with
    | some root => .ok (markup root)
    | none => .error .markup

end Document

end Recast.Input
