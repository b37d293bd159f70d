/-!
# Kinds of schema instances

An instance is a scalar of one of five kinds, an object or a list.
-/

namespace Recast

/-- The kinds of scalars; a moment is a string in the format of dates with times. -/
inductive Scalar where
  | boolean
  | number
  | integer
  | string
  | moment
deriving DecidableEq, Repr

def Scalar.name : Scalar → String
  | boolean => "boolean"
  | number => "number"
  | integer => "integer"
  | string => "string"
  | moment => "date-time"

inductive Kind where
  | scalar (s : Scalar)
  | object
  | array
deriving DecidableEq, Repr

namespace Kind

def name : Kind → String
  | scalar s => s.name
  | object => "object"
  | array => "array"

/-- The kind that a type name and a format declare. -/
def ofName? (type : String) (format : Option String) : Option Kind :=
  match type with
  | "object" => some object
  | "array" => some array
  | "boolean" => some (scalar .boolean)
  | "number" => some (scalar .number)
  | "integer" => some (scalar .integer)
  | "string" => some (scalar (if format == some "date-time" then .moment else .string))
  | _ => none

def scalar? : Kind → Option Scalar
  | scalar s => some s
  | _ => none

/-- Whether values of the kind are text. -/
def isText : Kind → Bool
  | scalar .string | scalar .moment => true
  | _ => false

end Kind

end Recast
