import Recast.Proofs.NodePath.Select

/-!
# Node paths that keep the order

What steps find is in document order if they descend at most once and then lead to first elements, and
in the end perhaps to attributes. With at most one descent they find every node at most once.
-/

namespace Recast.NodePath

open Markup (Attribute Node)

variable {n m : Node} {s : Step} {steps rest : List Step}

/-! ## Paths that keep the order -/

/-- Whether the step leads to attributes. -/
def Test.isAttribute : Test → Bool
  | attr _ | anyAttribute => true
  | _ => false

/-- Whether the step leads to the first child element or nowhere. -/
def Step.isFirst (s : Step) : Bool :=
  s.test == .anyElement && s.predicates.head? == some (.position 1)

/-- Whether steps from all scopes find nodes in document order: they lead to first elements, and in
the end perhaps to attributes. -/
def keepsOrder : List Step → Bool
  | [] => true
  | s :: rest =>
    match s.axis with
    | .self => keepsOrder rest
    | .child => s.test.isAttribute || s.isFirst && keepsOrder rest
    | .descendant => false

/-- Whether steps find nodes in document order. -/
def inOrder : List Step → Bool
  | [] => true
  | s :: rest =>
    match s.axis with
    | .self => inOrder rest
    | .child => s.test.isLeaf || inOrder rest
    | .descendant => keepsOrder (s.inScope :: rest)

theorem select_first_sublist (haxis : s.axis = .child) (h : s.isFirst = true) (n : Node) :
    (s.select n).Sublist n.elements.head?.toList := by
  obtain ⟨axis, test, predicates⟩ := s
  simp only [Step.isFirst, Bool.and_eq_true, beq_iff_eq] at haxis h
  obtain ⟨rfl, hhead⟩ := h
  subst haxis
  cases predicates with
  | nil => cases hhead
  | cons p predicates =>
      obtain rfl : p = .position 1 := by simpa using hhead
      have hfirst : (Predicate.position 1).filter n.elements = n.elements.head?.toList := by
        cases n.elements <;> rfl
      exact hfirst ▸ filterAll_sublist predicates _

/-- Attributes come right after their element. -/
theorem flatMap_attributes_sublist (n : Node) :
    ((scopes n).flatMap fun m => m.attributes.map Node.attr).Sublist (nodes n) := by
  induction n using nodes_listing.induction with
  | step n ih =>
      have hbelow : (n.elements.flatMap fun m => (scopes m).flatMap fun m =>
          m.attributes.map Node.attr).Sublist (n.elements.flatMap nodes) :=
        List.Sublist.flatMap_right _ fun m hm => ih m ((elements_sublist_parts n).subset hm)
      have hchildren : (n.elements.flatMap nodes).Sublist (n.children.flatMap nodes) :=
        List.filter_sublist.flatMap nodes
      rw [scopes_listing.eq, List.flatMap_cons, List.flatMap_assoc, nodes_listing.eq, parts,
        List.flatMap_append, flatMap_nodes_attributes]
      exact ((hbelow.trans hchildren).append_left _).cons n

theorem select_attributes_sublist (haxis : s.axis = .child) (h : s.test.isAttribute = true)
    (n : Node) : (s.select n).Sublist (n.attributes.map Node.attr) := by
  rw [select_child haxis]
  refine (filterAll_sublist _ _).trans ?_
  cases ht : s.test with
  | attr wanted => exact List.filter_sublist.map _
  | anyAttribute => exact List.Sublist.refl _
  | _ =>
      rw [ht] at h
      cases h

theorem isElement_of_mem_select (haxis : s.axis = .child) (h : s.test.isLeaf = true)
    (hm : m ∈ s.select n) : m.isElement = false :=
  isElement_of_isLeaf h ((filterAll_sublist _ _).subset (select_child haxis n ▸ hm))

theorem flatMap_scopes_sublist (h : keepsOrder rest = true) (n : Node) :
    ((scopes n).flatMap (selectAll rest)).Sublist (nodes n) := by
  induction rest with
  | nil =>
      rw [stepwise.flatMap_nil]
      exact scopes_sublist_nodes n
  | cons s rest ih =>
      rw [stepwise.flatMap_cons]
      rw [keepsOrder] at h
      cases haxis : s.axis with
      | descendant => simp [haxis] at h
      | self =>
          rw [haxis] at h
          have hself : ((scopes n).flatMap s.select).Sublist (scopes n) :=
            (List.Sublist.flatMap_right _ fun m _ => select_self_sublist haxis m).trans
              (by rw [List.flatMap_singleton'])
          exact (hself.flatMap _).trans (ih h)
      | child =>
          simp only [haxis, Bool.or_eq_true, Bool.and_eq_true] at h
          rcases h with h | ⟨hfirst, hrest⟩
          · -- What comes behind attributes can only drop some of them.
            have hfound : ((scopes n).flatMap s.select).Sublist (nodes n) :=
              (List.Sublist.flatMap_right _ fun m _ => select_attributes_sublist haxis h m).trans
                (flatMap_attributes_sublist n)
            have hleaf : s.test.isLeaf = true := by
              cases ht : s.test <;> simp_all [Test.isAttribute, Test.isLeaf]
            refine (flatMap_selectAll_of_not_isElement (fun m hm => ?_) rest).trans hfound
            obtain ⟨scope, _, hm⟩ := List.mem_flatMap.mp hm
            exact isElement_of_mem_select haxis hleaf hm
          · have hfound : ((scopes n).flatMap s.select).Sublist (scopes n) :=
              ((List.Sublist.flatMap_right _ fun m _ => select_first_sublist haxis hfirst m).trans
                (scopes_listing.flatMap_head_sublist n)).trans
                (scopes_listing.flatMap_parts_sublist n)
            exact (hfound.flatMap _).trans (ih hrest)

theorem selectAll_sublist (h : inOrder steps = true) (n : Node) :
    (selectAll steps n).Sublist (nodes n) := by
  induction steps generalizing n with
  | nil =>
      rw [stepwise.nil, List.singleton_sublist]
      exact nodes_listing.self_mem n
  | cons s rest ih =>
      rw [inOrder] at h
      cases haxis : s.axis with
      | self =>
          rw [haxis] at h
          have hself := (select_self_sublist haxis n).flatMap (selectAll rest)
          rw [List.flatMap_singleton] at hself
          rw [stepwise.cons]
          exact hself.trans (ih h n)
      | child =>
          simp only [haxis, Bool.or_eq_true] at h
          have hchild := select_child_sublist haxis n
          rw [stepwise.cons]
          rcases h with hleaf | hrest
          · have hleaves : ∀ m ∈ s.select n, m.isElement = false := fun m hm =>
              isElement_of_mem_select haxis hleaf hm
            exact (flatMap_selectAll_of_not_isElement hleaves rest).trans
              (hchild.trans (nodes_listing.parts_sublist n))
          · have hbelow : ((parts n).flatMap (selectAll rest)).Sublist ((parts n).flatMap nodes) :=
              List.Sublist.flatMap_right _ fun m _ => ih hrest m
            exact ((hchild.flatMap _).trans hbelow).trans (nodes_listing.flatMap_parts_sublist n)
      | descendant =>
          rw [haxis] at h
          rw [selectAll_descendant haxis]
          exact flatMap_scopes_sublist h n

/-! ## Paths that find every node once -/

/-- How often steps descend. -/
def descents (steps : List Step) : Nat := steps.countP fun s => s.axis == .descendant

/-- Without another descent, what is found below different nodes is different. -/
theorem flatMap_selectAll_subperm (h : descents steps = 0) (n : Node) :
    ((nodes n).flatMap (selectAll steps)).Subperm (nodes n) := by
  induction steps with
  | nil => rw [stepwise.flatMap_nil]
  | cons s rest ih =>
      simp only [descents, List.countP_cons, Nat.add_eq_zero_iff] at h
      have hstep : ((nodes n).flatMap s.select).Subperm (nodes n) := by
        cases haxis : s.axis with
        | self =>
            have hself : ((nodes n).flatMap s.select).Sublist ((nodes n).flatMap fun m => [m]) :=
              List.Sublist.flatMap_right _ fun m _ => select_self_sublist haxis m
            rw [List.flatMap_singleton'] at hself
            exact hself.subperm
        | child =>
            have hchild : ((nodes n).flatMap s.select).Sublist ((nodes n).flatMap parts) :=
              List.Sublist.flatMap_right _ fun m _ => select_child_sublist haxis m
            exact (hchild.subperm.trans (nodes_listing.flatMap_parts_perm n).subperm).trans
              (nodes_listing.flatMap_parts_sublist n).subperm
        | descendant => simp [haxis] at h
      obtain ⟨found, hfound, hsub⟩ := hstep
      rw [stepwise.flatMap_cons]
      exact (hfound.symm.flatMap_right _).subperm.trans ((hsub.flatMap _).subperm.trans (ih h.1))

theorem selectAll_subperm (h : descents steps ≤ 1) (n : Node) :
    (selectAll steps n).Subperm (nodes n) := by
  induction steps generalizing n with
  | nil => exact (selectAll_sublist rfl n).subperm
  | cons s rest ih =>
      rw [descents, List.countP_cons] at h
      cases haxis : s.axis with
      | self =>
          have hself := (select_self_sublist haxis n).flatMap (selectAll rest)
          rw [List.flatMap_singleton] at hself
          rw [stepwise.cons]
          exact hself.subperm.trans (ih (by simpa [haxis, descents] using h) n)
      | child =>
          have hchild := (select_child_sublist haxis n).flatMap (selectAll rest)
          have hbelow := Selection.flatMap_subperm (l := parts n) fun m _ =>
            ih (by simpa [haxis, descents] using h) m
          rw [stepwise.cons]
          exact (hchild.subperm.trans hbelow).trans
            (nodes_listing.flatMap_parts_sublist n).subperm
      | descendant =>
          have hrest : descents (s.inScope :: rest) = 0 := by
            simpa [descents, haxis, Step.inScope] using h
          rw [selectAll_descendant haxis]
          exact ((scopes_sublist_nodes n).flatMap _).subperm.trans
            (flatMap_selectAll_subperm hrest n)

end Recast.NodePath
