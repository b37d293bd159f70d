/-!
# Markup trees

Elements with attributes and children, text, and attributes that were selected from their element.
Names are local: what stands before a colon is no part of them.
-/

namespace Recast.Markup

structure Attribute where
  name : String
  value : String
deriving DecidableEq, Repr

inductive Node where
  | element (name : String) (attributes : List Attribute) (children : List Node)
  | text (content : String)
  | attr (a : Attribute)
deriving Repr, Inhabited

namespace Node

/-- The name of an element or attribute. -/
def name? : Node → Option String
  | element name _ _ => some name
  | text _ => none
  | attr a => some a.name

def attributes : Node → List Attribute
  | element _ attributes _ => attributes
  | _ => []

def children : Node → List Node
  | element _ _ children => children
  | _ => []

def isElement : Node → Bool
  | element .. => true
  | _ => false

def isText : Node → Bool
  | text _ => true
  | _ => false

/-- The children that are elements. -/
def elements (n : Node) : List Node := n.children.filter isElement

mutual

/-- The text of the node and of everything below it, in order; attributes of elements are left
out. -/
def innerText : Node → String
  | element _ _ children => childrenText children
  | text content => content
  | attr a => a.value
termination_by structural n => n

def childrenText : List Node → String
  | [] => ""
  | n :: ns => innerText n ++ childrenText ns
termination_by structural ns => ns

end

/-- A parent for the document element, with no name and no attributes. -/
def document (root : Node) : Node := element "" [] [root]

end Node

end Recast.Markup
