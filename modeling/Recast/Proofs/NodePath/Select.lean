import Recast.NodePath.Select
import Recast.Proofs.Selection

/-!
# What node paths find

Steps find what the later ones find from each node that the first ones find. All of it is listed by
`nodes`: a node comes before its attributes, and these before everything in its children. A step finds
parts of a node, the node itself, or parts of the elements in it, which `scopes` lists.
-/

namespace Recast.NodePath

open Markup (Attribute Node)
open Selection (Listing)

variable {n m : Node} {ns : List Node} {s : Step} {steps rest : List Step} {t : Test}

theorem stepwise : Selection.Stepwise Step.select selectAll := ⟨fun _ _ => rfl⟩

/-! ## The nodes of a document -/

mutual

/-- The node, its attributes, and the nodes of its children. -/
def nodes : Node → List Node
  | .element name attributes children =>
    .element name attributes children :: (attributes.map Node.attr ++ childNodes children)
  | n => [n]
termination_by structural n => n

def childNodes : List Node → List Node
  | [] => []
  | n :: ns => nodes n ++ childNodes ns
termination_by structural ns => ns

end

/-- The attributes and children of a node. -/
def parts (n : Node) : List Node := n.attributes.map Node.attr ++ n.children

theorem childNodes_eq (ns : List Node) : childNodes ns = ns.flatMap nodes := by
  induction ns with
  | nil => rfl
  | cons n ns ih => rw [childNodes, ih, List.flatMap_cons]

theorem nodes_of_not_isElement (h : n.isElement = false) : nodes n = [n] := by
  cases n with
  | element => cases h
  | _ => rfl

theorem flatMap_nodes_attributes (attributes : List Attribute) :
    (attributes.map Node.attr).flatMap nodes = attributes.map Node.attr := by
  rw [List.flatMap_map]
  exact (List.map_eq_flatMap ..).symm

theorem nodes_listing : Listing parts nodes where
  eq n := by
    cases n with
    | element name attributes children =>
        rw [nodes, childNodes_eq, parts, List.flatMap_append]
        simp only [Node.attributes, Node.children]
        rw [flatMap_nodes_attributes]
    | _ => rfl

theorem childScopes_eq (ns : List Node) :
    childScopes ns = (ns.filter Node.isElement).flatMap scopes := by
  induction ns with
  | nil => rfl
  | cons n ns ih =>
      rw [childScopes, ih]
      cases h : n.isElement <;> simp [h]

theorem scopes_listing : Listing Node.elements scopes where
  eq n := by
    cases n with
    | element name attributes children =>
        rw [scopes, childScopes_eq]
        rfl
    | _ => rfl

theorem elements_sublist_parts (n : Node) : n.elements.Sublist (parts n) :=
  List.filter_sublist.trans (List.sublist_append_right _ _)

theorem scopes_sublist_nodes (n : Node) : (scopes n).Sublist (nodes n) := by
  induction n using nodes_listing.induction with
  | step n ih =>
      have hbelow : (n.elements.flatMap scopes).Sublist ((parts n).flatMap nodes) :=
        (List.Sublist.flatMap_right _ fun m hm =>
          ih m ((elements_sublist_parts n).subset hm)).trans
          ((elements_sublist_parts n).flatMap nodes)
      rw [scopes_listing.eq, nodes_listing.eq]
      exact hbelow.cons_cons n

/-! ## Single steps -/

theorem filter_sublist (p : Predicate) (ns : List Node) : (p.filter ns).Sublist ns := by
  cases p with
  | position k =>
      rw [Predicate.filter]
      split
      · exact List.nil_sublist _
      · exact Selection.toList_sublist fun n hn => List.mem_of_getElem? hn
  | _ => exact List.filter_sublist

theorem filterAll_sublist (predicates : List Predicate) (ns : List Node) :
    (filterAll predicates ns).Sublist ns := by
  induction predicates generalizing ns with
  | nil => exact List.Sublist.refl _
  | cons p predicates ih => exact (ih _).trans (filter_sublist p ns)

theorem matches_sublist (t : Test) (n : Node) : (t.matches n).Sublist (parts n) := by
  cases t with
  | name wanted => exact List.filter_sublist.trans (elements_sublist_parts n)
  | anyElement => exact elements_sublist_parts n
  | attr wanted =>
      exact (List.filter_sublist.map _).trans (List.sublist_append_left _ _)
  | anyAttribute => exact List.sublist_append_left _ _
  | text => exact List.filter_sublist.trans (List.sublist_append_right _ _)

theorem select_child (h : s.axis = .child) (n : Node) :
    s.select n = filterAll s.predicates (s.test.matches n) := by
  rw [Step.select, h]

theorem select_self_sublist (h : s.axis = .self) (n : Node) : (s.select n).Sublist [n] := by
  rw [Step.select, h]
  exact filterAll_sublist _ _

theorem select_child_sublist (h : s.axis = .child) (n : Node) :
    (s.select n).Sublist (parts n) := by
  rw [select_child h]
  exact (filterAll_sublist _ _).trans (matches_sublist _ _)

/-- The step from each of the scopes that a descent leads to. -/
def Step.inScope (s : Step) : Step := { s with axis := .child }

theorem select_descendant (h : s.axis = .descendant) (n : Node) :
    s.select n = (scopes n).flatMap s.inScope.select := by
  rw [Step.select, h]
  rfl

theorem selectAll_descendant (h : s.axis = .descendant) (rest : List Step) (n : Node) :
    selectAll (s :: rest) n = (scopes n).flatMap (selectAll (s.inScope :: rest)) := by
  rw [stepwise.cons, select_descendant h, stepwise.flatMap_cons]

theorem mem_nodes_of_mem_select (h : m ∈ s.select n) : m ∈ nodes n := by
  cases haxis : s.axis with
  | self =>
      obtain rfl := List.mem_singleton.mp ((select_self_sublist haxis n).subset h)
      exact nodes_listing.self_mem m
  | child => exact nodes_listing.mem_of_mem_parts ((select_child_sublist haxis n).subset h)
  | descendant =>
      rw [select_descendant haxis] at h
      obtain ⟨scope, hscope, h⟩ := List.mem_flatMap.mp h
      have hpart := (select_child_sublist (s := s.inScope) rfl scope).subset h
      exact (nodes_listing.sublist_of_mem ((scopes_sublist_nodes n).subset hscope)).subset
        (nodes_listing.mem_of_mem_parts hpart)

theorem mem_nodes_of_mem_selectAll (h : m ∈ selectAll steps n) : m ∈ nodes n := by
  induction steps generalizing n with
  | nil =>
      obtain rfl := List.mem_singleton.mp h
      exact nodes_listing.self_mem m
  | cons s rest ih =>
      obtain ⟨u, hu, hm⟩ := stepwise.mem_cons.mp h
      exact (nodes_listing.sublist_of_mem (mem_nodes_of_mem_select hu)).subset (ih hm)

/-! ## Nodes without parts -/

theorem parts_of_not_isElement (h : n.isElement = false) : parts n = [] := by
  cases n with
  | element => cases h
  | _ => rfl

theorem select_of_not_isElement (h : n.isElement = false) (haxis : s.axis ≠ .self) :
    s.select n = [] := by
  have hchild {s : Step} (hs : s.axis = .child) : s.select n = [] :=
    List.sublist_nil.mp (parts_of_not_isElement h ▸ select_child_sublist hs n)
  cases hs : s.axis with
  | child => exact hchild hs
  | descendant =>
      have hscopes : scopes n = [n] := by
        cases n with
        | element => cases h
        | _ => rfl
      rw [select_descendant hs, hscopes, List.flatMap_singleton, hchild rfl]
  | self => exact absurd hs haxis

/-- From an attribute or a text, steps find the node itself or nothing. -/
theorem selectAll_of_not_isElement (h : n.isElement = false) (steps : List Step) :
    (selectAll steps n).Sublist [n] := by
  induction steps with
  | nil => exact List.Sublist.refl _
  | cons s steps ih =>
      rw [stepwise.cons]
      by_cases haxis : s.axis = .self
      · exact ((select_self_sublist haxis n).flatMap _).trans (by rwa [List.flatMap_singleton])
      · rw [select_of_not_isElement h haxis]
        exact List.nil_sublist _

theorem flatMap_selectAll_of_not_isElement (h : ∀ n ∈ ns, n.isElement = false) (steps : List Step) :
    (ns.flatMap (selectAll steps)).Sublist ns := by
  have heach := List.Sublist.flatMap_right ns fun n hn => selectAll_of_not_isElement (h n hn) steps
  exact heach.trans (by rw [List.flatMap_singleton'])

/-- Whether a test is for nodes without parts. -/
def Test.isLeaf : Test → Bool
  | name _ | anyElement => false
  | attr _ | anyAttribute | text => true

theorem isElement_of_isLeaf (ht : t.isLeaf = true) (h : m ∈ t.matches n) : m.isElement = false := by
  cases t with
  | name wanted => cases ht
  | anyElement => cases ht
  | text =>
      cases m with
      | element => cases (List.mem_filter.mp h).2
      | _ => rfl
  | attr wanted =>
      obtain ⟨a, _, rfl⟩ := List.mem_map.mp h
      rfl
  | anyAttribute =>
      obtain ⟨a, _, rfl⟩ := List.mem_map.mp h
      rfl

end Recast.NodePath
