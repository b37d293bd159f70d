import Recast.NodePath.Reader
import Recast.Operation.Reader
import Recast.Schema.Kind

/-!
# Rules

A rule lists the sources of a value and says how their values combine. A path of a source that
begins with an at sign starts at the object or list around the instance that has the rule.
-/

namespace Recast.Schema

open Json (Value Mismatch)
open Json.Decode (Shape needed)

/-- How the values of several sources combine. -/
inductive Method where
  | first
  | last
  | concatenate
deriving DecidableEq, Repr

def Method.name : Method → String
  | first => "first"
  | last => "last"
  | concatenate => "concatenate"

/-- One source of a value. Paths are kept as they are written. -/
structure Source where
  path : Option String
  nodePath : Option NodePath
  operations : List Operation

structure Rule where
  sources : List Source
  method : Method
  delimiter : String

/-- What is wrong with a rule. -/
inductive RuleFault where
  | malformed (mismatch : Mismatch)
  | noSources
  | notText (kind : Kind)
  | noPath
  | badPath (source : String) (fault : Path.Fault)
  | badNodePath (fault : NodePath.Fault)
  | badOperation (error : Operation.Error)

def RuleFault.message : RuleFault → String
  | malformed mismatch => "invalid transform rule: " ++ mismatch.message
  | noSources => "transform rule has no sources"
  | notText kind => "concatenate requires a string instance, found " ++ kind.name
  | noPath => "source needs a jsonPath or an xmlPath"
  | badPath source fault => "invalid jsonPath '" ++ source ++ "': " ++ fault.message
  | badNodePath fault => fault.message
  | badOperation error => error.message

/-! ## Declarations -/

structure SourceDeclaration where
  path : Option String := none
  nodePath : Option String := none
  operations : List Operation.Declaration := []

structure RuleDeclaration where
  sources : Option (List SourceDeclaration) := none
  method : Method := .first
  delimiter : String := ""

namespace SourceDeclaration

def shape : Shape :=
  ⟨"SourceSpec", [("jsonPath", true), ("xmlPath", true), ("operations", false)], true⟩

def readMember (d : SourceDeclaration) (key : String) (v : Value) :
    Except Mismatch SourceDeclaration :=
  match key with
  | "jsonPath" => do .ok { d with path := ← Json.Decode.optional Json.Decode.string v }
  | "xmlPath" => do .ok { d with nodePath := ← Json.Decode.optional Json.Decode.string v }
  | _ => do .ok { d with operations := ← Json.Decode.list Operation.Declaration.decode v }

def decode (v : Value) : Except Mismatch SourceDeclaration := shape.decode readMember {} v

end SourceDeclaration

namespace RuleDeclaration

def optionsShape : Shape := ⟨"MethodOptions", [("concatenateDelimiter", false)], false⟩

def decodeDelimiter (v : Value) : Except Mismatch String :=
  optionsShape.decode (fun _ _ v => Json.Decode.string v) "" v

def decodeMethod (v : Value) : Except Mismatch Method := do
  match ← Json.Decode.variant ["first", "last", "concatenate"] v with
  | "last" => .ok .last
  | "concatenate" => .ok .concatenate
  | _ => .ok .first

def shape : Shape :=
  ⟨"InstructionsSpec", [("from", true), ("method", false), ("methodOptions", false)], true⟩

def readMember (d : RuleDeclaration) (key : String) (v : Value) : Except Mismatch RuleDeclaration :=
  match key with
  | "from" => do .ok { d with sources := some (← Json.Decode.list SourceDeclaration.decode v) }
  | "method" => do .ok { d with method := ← decodeMethod v }
  | _ => do .ok { d with delimiter := ← decodeDelimiter v }

def decode (v : Value) : Except Mismatch RuleDeclaration := shape.decode readMember {} v

end RuleDeclaration

/-! ## Building -/

/-- The path with the enclosing path in place of a leading at sign. -/
def expand (path enclosing : String) : String :=
  match Text.trim path.toList with
  | '@' :: rest => enclosing ++ String.ofList rest
  | s => String.ofList s

def buildPath (enclosing source : String) : Except RuleFault String :=
  let expanded := expand source enclosing
  match Path.parse expanded with
  | .ok _ => .ok expanded
  | .error fault => .error (.badPath source fault)

def buildNodePath (source : String) : Except RuleFault NodePath :=
  match NodePath.parse source with
  | .ok p => .ok p
  | .error fault => .error (.badNodePath fault)

def buildOperation (d : Operation.Declaration) : Except RuleFault Operation :=
  match Operation.build d with
  | .ok operation => .ok operation
  | .error error => .error (.badOperation error)

def Source.build (enclosing : String) (d : SourceDeclaration) : Except RuleFault Source :=
  if d.path.isNone && d.nodePath.isNone then .error .noPath
  else do
    let path ← d.path.mapM (buildPath enclosing)
    let nodePath ← d.nodePath.mapM buildNodePath
    let operations ← d.operations.mapM buildOperation
    .ok ⟨path, nodePath, operations⟩

/-- The rule that a block declares for an instance of a kind. -/
def Rule.build (enclosing : String) (kind : Kind) (block : Value) : Except RuleFault Rule :=
  match RuleDeclaration.decode block with
  | .error mismatch => .error (.malformed mismatch)
  | .ok d =>
    match d.sources with
    | none => .error (.malformed (.missing "from"))
    | some [] => .error .noSources
    | some sources =>
      if d.method == .concatenate && !kind.isText then .error (.notText kind)
      else do .ok ⟨← sources.mapM (Source.build enclosing), d.method, d.delimiter⟩

/-! ## Concatenation -/

/-- Puts a part behind the text so far, with the delimiter between them if both are non-empty. -/
def append (delimiter joined part : String) : String :=
  if joined.isEmpty || part.isEmpty then joined ++ part else joined ++ delimiter ++ part

/-- The parts with the delimiter between non-empty ones; nothing if there are no parts. -/
def concatenate (delimiter : String) : List String → Option String
  | [] => none
  | part :: rest => some (rest.foldl (append delimiter) part)

end Recast.Schema
