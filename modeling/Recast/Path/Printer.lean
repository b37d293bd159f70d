import Recast.Path.Basic

/-!
# Writing paths

Names that start with a letter or an underscore are written after a point, all others in brackets
and quotes. `childPath` and `itemPath` extend a written path by one step.
-/

namespace Recast.Path

/-- A name in single quotes, with a backslash before quotes and backslashes. -/
def quoteName (name : List Char) : List Char :=
  name.flatMap fun c => if c == '\\' || c == '\'' then ['\\', c] else [c]

/-- The step to a member. -/
def childStep (name : String) : String :=
  if isPlain name.toList then "." ++ name
  else "['" ++ String.ofList (quoteName name.toList) ++ "']"

/-- The path of a member of the value at `parent`. -/
def childPath (parent name : String) : String := parent ++ childStep name

/-- The path of every element of the list at `parent`. -/
def itemPath (parent : String) : String := parent ++ "[*]"

/-- The path of one element of the list at `parent`. -/
def elementPath (parent : String) (i : Nat) : String := parent ++ "[" ++ toString i ++ "]"

/-- The path of the document. -/
def rootPath : String := "$"

/-- The text of a selector; after a descent the point is left out. -/
def Selector.text (afterDescent : Bool) : Selector → String
  | child name =>
    if afterDescent && isPlain name.toList then name else childStep name
  | index i => "[" ++ toString i ++ "]"
  | fromEnd i => "[-" ++ toString i ++ "]"
  | wildcard => if afterDescent then "*" else "[*]"
  | descent => ".."

def selectorsText (afterDescent : Bool) : List Selector → String
  | [] => ""
  | s :: rest => s.text afterDescent ++ selectorsText (s == .descent) rest

def Root.text : Root → String
  | document => "$"
  | current => "@"

/-- The written form of a path. -/
def text (p : Path) : String := p.root.text ++ selectorsText false p.selectors

end Recast.Path
