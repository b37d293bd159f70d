import Recast.Input.Document
import Recast.Input.Finding
import Recast.NodePath.OfPath
import Recast.NodePath.Select
import Recast.Path.Reader
import Recast.Path.Select

/-!
# Contexts

A context looks paths up in a document. Inside lists it is narrowed to one element: paths at or
below the path of the element are looked up in the element instead.
-/

namespace Recast.Input

/-- An element: its concrete path and what stands there. -/
structure Scope where
  path : String
  seed : Finding

/-- A document and the elements around the current place, the innermost first. -/
structure Context where
  document : Document
  scopes : List Scope

/-- Why a lookup is broken off. -/
inductive LookupFault where
  | path (fault : Path.Fault)
  /-- A position in markup does not fit. -/
  | overflow
deriving DecidableEq, Repr

/-- What is left of a path behind another one, if it is at or below it. -/
def below? (outer path : String) : Option String :=
  match Text.dropStart? outer.toList path.toList with
  | some [] => some ""
  | some (c :: rest) => if c == '.' || c == '[' then some (String.ofList (c :: rest)) else none
  | none => none

namespace Context

def ofDocument (document : Document) : Context := ⟨document, []⟩

/-- The context inside an element. -/
def narrow (c : Context) (path : String) (seed : Finding) : Context :=
  { c with scopes := ⟨path, seed⟩ :: c.scopes }

/-- What a path finds in a value: a definite path one value, unless it is null, any other path the
list of its matches, unless there are none. -/
def inValue (p : Path) (v : Json.Value) : Option Finding :=
  if p.isDefinite then (p.first? v).bind Finding.ofJson?
  else
    match p.select v with
    | [] => none
    | found => some (.json (.array found))

/-- What a path finds in markup through its node path, if it has one. -/
def inMarkup (select : NodePath → List Markup.Node) :
    Except NodePath.Unmapped NodePath → Except LookupFault (Option Finding)
  | .ok q => .ok (Finding.ofNodes? (select q))
  | .error .unsupported => .ok none
  | .error .overflow => .error .overflow

/-- What a path finds in an element. -/
def inSeed (p : Path) : Finding → Except LookupFault (Option Finding)
  | .json v => .ok (inValue p v)
  | .nodes ns =>
    inMarkup (fun q => ns.flatMap fun n => NodePath.selectAll q.steps n) (NodePath.ofPath p false)

/-- What a path finds in a document. -/
def inDocument (p : Path) : Document → Except LookupFault (Option Finding)
  | .json v => .ok (inValue p v)
  | .markup root => inMarkup (fun q => q.select root root) (NodePath.ofPath p true)

/-- The innermost element that a path is at or below, and what is left of the path there. -/
def scopeOf? (path : String) : List Scope → Option (Finding × String)
  | [] => none
  | s :: rest =>
    match below? s.path path with
    | some left => some (s.seed, left)
    | none => scopeOf? path rest

/-- The path that is looked up. -/
def readPath (path : String) : Except LookupFault Path := (Path.parse path).mapError .path

/-- What a path finds. -/
def lookup (c : Context) (path : String) : Except LookupFault (Option Finding) :=
  match scopeOf? path c.scopes with
  | some (seed, left) => do inSeed (← readPath ("$" ++ left)) seed
  | none => do inDocument (← readPath path) c.document

/-- The first node of the innermost element that is made of nodes. -/
def nearestNode? : List Scope → Option Markup.Node
  | [] => none
  | s :: rest =>
    match s.seed with
    | .nodes (n :: _) => some n
    | _ => nearestNode? rest

/-- What a node path finds. It finds nothing in JSON documents; relative paths start at the
innermost element, or at the document element. -/
def lookupNodes (c : Context) (p : NodePath) : Option Finding :=
  match c.document with
  | .json _ => none
  | .markup root => Finding.ofNodes? (p.select root ((nearestNode? c.scopes).getD root))

end Context

end Recast.Input
