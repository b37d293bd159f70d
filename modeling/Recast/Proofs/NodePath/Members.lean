import Mathlib.Data.List.TakeWhile
import Recast.Input.Context
import Recast.Proofs.NodePath.Compose
import Recast.Proofs.Path.Trail

/-!
# Node paths of properties

The steps to properties read as steps to child elements of their names, from the document element or
from the node of an element.
-/

namespace Recast.NodePath

open Input (Context Finding)
open Markup (Node)
open Recast.Path (members)

variable {name : String} {names : List String} {root : Node}

/-! ## Names -/

theorem localName_eq_self (h : ':' ∉ name.toList) : localName name = name := by
  have hall : name.toList.reverse.takeWhile (· != ':') = name.toList.reverse := by
    refine List.takeWhile_eq_self_iff.mpr fun c hc => ?_
    rw [bne_iff_ne]
    rintro rfl
    exact h (List.mem_reverse.mp hc)
  rw [localName, Text.afterLast, hall, List.reverse_reverse, String.ofList_toList]

/-- The name stands for child elements as it is: it is none of an attribute and has no prefix. -/
def IsElementName (name : String) : Prop := name.toList.head? ≠ some '@' ∧ ':' ∉ name.toList

instance (name : String) : Decidable (IsElementName name) :=
  inferInstanceAs (Decidable (_ ∧ _))

theorem localName_eq (h : IsElementName name) : localName name = name := localName_eq_self h.2

/-! ## Steps -/

/-- The step to the child elements of a name. -/
def toElements (name : String) : Step := ⟨.child, .name name, []⟩

theorem toElements_select (h : IsElementName name) (n : Node) :
    (toElements name).select n = n.elements.filter fun child => child.name? == some name := by
  simp [toElements, Step.select, filterAll, Test.matches, localName_eq h]

/-- The nodes that the steps to child elements of some names lead to. -/
def reach (names : List String) (n : Node) : List Node := selectAll (names.map toElements) n

theorem reach_nil (n : Node) : reach [] n = [n] := rfl

theorem reach_append (names : List String) (name : String) (n : Node) :
    reach (names ++ [name]) n = (reach names n).flatMap (toElements name).select := by
  rw [reach, selectAll, List.map_append, List.foldl_append]
  rfl

theorem testOf?_child (h : IsElementName name) : testOf? (.child name) = some (.name name) := by
  unfold testOf?
  dsimp only
  split
  · rename_i rest hrest
    exact absurd (by rw [hrest, List.head?_cons]) h.1
  · rfl

theorem foldlM_members (h : ∀ name ∈ names, IsElementName name) (steps : List Step) :
    (members names).foldlM Draft.add ⟨steps, false⟩ =
      .ok ⟨(names.map toElements).reverse ++ steps, false⟩ := by
  induction names generalizing steps with
  | nil => rfl
  | cons name names ih =>
      have hrest := ih (fun name hn => h name (by simp [hn])) (toElements name :: steps)
      have hadd : Draft.add ⟨steps, false⟩ (.child name) = .ok ⟨toElements name :: steps, false⟩ :=
        Draft.add_eq_ok_iff.mpr (.step (testOf?_child (h name (by simp))))
      show Draft.add ⟨steps, false⟩ (.child name) >>= _ = _
      rw [hadd]
      exact hrest.trans (by simp)

/-! ## Lookups -/

/-- In an element, the steps to properties lead to what the steps to child elements lead to. -/
theorem inSeed_members (h : ∀ name ∈ names, IsElementName name) (n : Node) :
    Context.inSeed ⟨.document, members names⟩ (.nodes [n]) =
      .ok (Finding.ofNodes? (reach names n)) := by
  obtain ⟨q, hq, hsteps⟩ : ∃ q, ofPath ⟨.document, members names⟩ false = .ok q ∧
      selectAll q.steps n = reach names n := by
    refine ⟨_, ofPath_eq_ok_iff.mpr ⟨_, foldlM_members h [], rfl⟩, ?_⟩
    simp [Draft.selectAll_finished, reach]
  simp [Context.inSeed, Context.inMarkup, hq, hsteps]

/-- In a document, they lead there from the document element. -/
theorem inDocument_members (h : ∀ name ∈ names, IsElementName name) (hroot : root.isElement = true) :
    Context.inDocument ⟨.document, members names⟩ (.markup root) =
      .ok (Finding.ofNodes? (reach names root)) := by
  obtain ⟨q, hq, hselect⟩ : ∃ q, ofPath ⟨.document, members names⟩ true = .ok q ∧
      q.select root root = reach names root := by
    refine ⟨_, ofPath_eq_ok_iff.mpr ⟨_, foldlM_members h [toRoot], rfl⟩, ?_⟩
    simp [select, Draft.selectAll_finished, stepwise.cons, toRoot_select hroot, reach]
  simp [Context.inDocument, Context.inMarkup, hq, hselect]

end Recast.NodePath
