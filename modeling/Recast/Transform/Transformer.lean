import Recast.Json.Printer
import Recast.Transform.Run
import Recast.Validation.Schema

/-!
# Transformers

A transformer turns documents into documents of one schema by one rule set. Every output passes a
gate before it is handed out.
-/

namespace Recast

open Json (Value)
open Input (Document Format)
open Schema (Descriptor)

/-- What a gate says of a document. -/
inductive Verdict where
  | accepted
  /-- Without a reason. -/
  | refused
  | violated (violations : List Validation.Violation)
  /-- Nothing, since it does not come to an end. -/
  | endless

/-- What an output has to pass: anything that judges documents. -/
structure Gate where
  judge : Value → Verdict

namespace Gate

def ofSchema (s : Validation.Schema) : Gate where
  judge v :=
    match s.violations? v with
    | none => .endless
    | some [] => .accepted
    | some violations => .violated violations

def acceptAll : Gate := ⟨fun _ => .accepted⟩

end Gate

structure Transformer where
  descriptor : Descriptor
  ruleSet : String
  /-- The format of raw input; without one it is detected. -/
  format : Option Format
  gate : Gate

namespace Transformer

/-- A transformer over a descriptor, whose schema is the gate. -/
def ofDescriptor (descriptor : Descriptor) (ruleSet : String) : Except Error Transformer :=
  match Validation.Schema.compile descriptor.schema with
  | .ok s => .ok ⟨descriptor, ruleSet, none, .ofSchema s⟩
  | .error pointer => .error (.schema ⟨Path.rootPath, .notCompiled pointer⟩)

/-- A transformer of a schema. -/
def ofSchema (schema : Value) (ruleSet : String) : Except Error Transformer :=
  match Descriptor.read schema with
  | .ok descriptor => ofDescriptor descriptor ruleSet
  | .error fault => .error (.schema fault)

/-- Transforms a parsed document. -/
def transformDocument (t : Transformer) (document : Document) : Except Error Value := do
  let output ← Transform.run t.descriptor.root t.ruleSet document
  match t.gate.judge output with
  | .accepted => .ok output
  | .refused => .error (.validation [⟨"", "", "document rejected by validator"⟩])
  | .violated violations => .error (.validation violations)
  | .endless => .error .endless

/-- Transforms a JSON value. -/
def transformValue (t : Transformer) (v : Value) : Except Error Value :=
  t.transformDocument (.json v)

def parse (format : Format) (raw : List UInt8) : Except Error Document :=
  match Document.parse format raw with
  | .ok document => .ok document
  | .error fault => .error (.input fault)

/-- Transforms raw input into a value. -/
def transformRaw (t : Transformer) (raw : List UInt8) : Except Error Value := do
  t.transformDocument (← parse (t.format.getD (Format.detect raw)) raw)

/-- Transforms raw input into text. -/
def transform (t : Transformer) (raw : List UInt8) : Except Error String := do
  .ok (Json.compact (← t.transformRaw raw))

end Transformer

end Recast
