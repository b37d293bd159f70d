import Recast.Text.Case
import Recast.Text.Utf8

/-!
# Formats of input documents
-/

namespace Recast.Input

inductive Format where
  | json
  | markup
deriving DecidableEq, Repr

namespace Format

def name : Format → String
  | json => "JSON"
  | markup => "XML"

def isBlankByte (b : UInt8) : Bool := b == 0x20 || b == 0x9 || b == 0xA || b == 0xC || b == 0xD

/-- The bytes after a byte order mark, or all of them. -/
def skipMark (bytes : List UInt8) : List UInt8 :=
  (Text.dropStart? [0xEF, 0xBB, 0xBF] bytes).getD bytes

/-- Markup, if the first byte that is no blank opens a tag. -/
def detect (bytes : List UInt8) : Format :=
  match (skipMark bytes).dropWhile isBlankByte with
  | 0x3C :: _ => markup
  | _ => json

/-- The format of a name in any case, or what is wrong with the name. -/
def ofName (name : String) : Except String Format :=
  match Text.lowered name with
  | "json" => .ok json
  | "xml" => .ok markup
  | other => .error ("unknown input format '" ++ other ++ "'")

end Format

end Recast.Input
