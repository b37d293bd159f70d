import Recast.NodePath.Basic

/-!
# Writing node paths
-/

namespace Recast.NodePath

def Test.render : Test → String
  | name n => n
  | anyElement => "*"
  | attr n => "@" ++ n
  | anyAttribute => "@*"
  | text => "text()"

def Predicate.render : Predicate → String
  | position n => "[" ++ toString n ++ "]"
  | attr name value => "[@" ++ name ++ "='" ++ value ++ "']"
  | child name value => "[" ++ name ++ "='" ++ value ++ "']"

/-- What stands before a step; the first step of a relative path has no slash. -/
def Axis.lead (isFirst isAbsolute : Bool) : Axis → String
  | descendant => "//"
  | child => if isFirst && !isAbsolute then "./" else "/"
  | self => if isFirst then "" else "/"

def Step.render (isFirst isAbsolute : Bool) (s : Step) : String :=
  s.axis.lead isFirst isAbsolute ++
    (if s.axis == .self then "." else s.test.render) ++
    String.join (s.predicates.map Predicate.render)

def renderSteps (isAbsolute : Bool) : List Step → String
  | [] => ""
  | s :: rest => s.render true isAbsolute ++ String.join (rest.map (Step.render false isAbsolute))

/-- The written form of a path. -/
def render (p : NodePath) : String := renderSteps p.isAbsolute p.steps

end Recast.NodePath
