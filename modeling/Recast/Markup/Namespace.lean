import Recast.Markup.Token
import Recast.Markup.Node

/-!
# Namespaces

Prefixes stand for namespaces that attributes declare for an element and everything in it. They have
to be declared, and no element has two attributes of one namespace and one local name.
-/

namespace Recast.Markup

/-- The namespaces that prefixes stand for, the nearest declaration first. -/
abbrev Scope := List (String × String)

namespace Scope

def xmlSpace : String := "http://www.w3.org/XML/1998/namespace"

def xmlnsSpace : String := "http://www.w3.org/2000/xmlns/"

/-- Adds a declared prefix to those that the element declared before. -/
def declare? (declared : Scope) (space value : String) : Option Scope :=
  if value == xmlnsSpace then none
  else if (space == "xml") != (value == xmlSpace) then none
  else if (declared.lookup space).isSome then none
  else if space == "xml" then some declared
  else some (declared ++ [(space, value)])

/-- The prefixes that the attributes of an element declare, and its other attributes. -/
def split? (declared : Scope) : List RawAttribute → Option (Scope × List RawAttribute)
  | [] => some (declared, [])
  | a :: rest =>
    if a.name.space == "xmlns" then do
      split? (← declare? declared a.name.loc a.value) rest
    else if a.name.loc == "xmlns" then
      if a.value == xmlSpace || a.value == xmlnsSpace then none else split? declared rest
    else do
      let (declared, others) ← split? declared rest
      some (declared, a :: others)

/-- The namespace of an attribute: none without a prefix. -/
def ofAttribute? (scope : Scope) (a : RawAttribute) : Option (Option String) :=
  if a.name.space == "xml" then some (some xmlSpace)
  else if a.name.space == "" then some none
  else (scope.lookup a.name.space).map some

/-- Whether the prefix of an element has a namespace. -/
def knows (scope : Scope) (name : QName) : Bool :=
  name.space == "" || (scope.lookup name.space).isSome

/-- The scope inside an element and its attributes, unless a declaration, a prefix or a repeated
attribute is wrong. -/
def enter? (outer : Scope) (name : QName) (attributes : List RawAttribute) :
    Option (Scope × List Attribute) := do
  if name.space == "xmlns" then none
  else
    let (declared, others) ← split? [] attributes
    let scope := declared ++ outer
    let expanded ← others.mapM fun a => do some (← scope.ofAttribute? a, a.name.loc)
    if expanded.Nodup && scope.knows name then
      some (scope, others.map fun a => ⟨a.name.loc, a.value⟩)
    else none

end Scope

end Recast.Markup
