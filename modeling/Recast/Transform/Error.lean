import Recast.Input.Context
import Recast.Schema.Instance
import Recast.Transform.Tree
import Recast.Validation.Errors

/-!
# Errors of transforms

A schema is rejected before any document is transformed. A transform fails on input that cannot be
read, on an operation, on a place that cannot be written, or on the validation of its output. It
breaks off where a position in markup does not fit, or where the validation does not come to an end.
-/

namespace Recast

inductive Error where
  | schema (fault : Schema.Fault)
  | operation (at_ name : String) (cause : Operation.Error)
  | input (fault : Input.Fault)
  | tree (at_ : String) (problem : Tree.Problem)
  | validation (violations : List Validation.Violation)
  | path (fault : Path.Fault)
  | overflow
  | endless

/-- What an error is about. -/
inductive Error.Kind where
  | schema
  | operation
  | input
  | tree
  | validation
  | path
  | overflow
  | endless
deriving DecidableEq, Repr

namespace Error

def kind : Error → Kind
  | schema _ => .schema
  | operation .. => .operation
  | input _ => .input
  | tree .. => .tree
  | validation _ => .validation
  | path _ => .path
  | overflow => .overflow
  | endless => .endless

def ofLookup : Input.LookupFault → Error
  | .path fault => path fault
  | .overflow => overflow

def ofTree : Tree.Fault → Error
  | .badPath fault => path fault
  | .badPlace place problem => tree place problem

def message : Error → String
  | schema fault => "Schema error at " ++ fault.path ++ ": " ++ fault.message
  | operation place name cause =>
    "Operation '" ++ name ++ "' failed at " ++ place ++ ": " ++ cause.message
  | input fault => fault.message
  | tree place problem => "Cannot write output at " ++ place ++ ": " ++ problem.message
  | validation violations => "Output failed validation: " ++ Validation.Violations.text violations
  | path fault => fault.message
  | overflow => "attempt to add with overflow"
  | endless => "stack overflow"

/-- Whether the error is one of the schema. -/
def isConstruction : Error → Bool
  | schema _ => true
  | _ => false

end Error

end Recast
