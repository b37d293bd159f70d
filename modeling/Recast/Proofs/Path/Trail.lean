import Recast.Proofs.Path.Canonical
import Recast.Transform.Tree

/-!
# Trails

A trail leads through a schema, to properties and to the items of lists. With indices in place of
its wildcards it leads to one place of a document.
-/

namespace Recast.Path

variable {outer sels : List Selector} {indices : List Nat}

/-! ## Steps -/

/-- A step through a schema: to a property or to the items of a list. -/
def IsTrailStep : Selector → Prop
  | .child _ | .wildcard => True
  | _ => False

theorem IsTrailStep.isStep {sel : Selector} (h : IsTrailStep sel) : sel.IsStep := by
  cases sel <;> trivial

/-- A step to one place of a document. -/
def IsConcrete (sel : Selector) : Prop := sel.IsStep ∧ (Tree.stepOf? sel).isSome

/-- The steps to properties. -/
def members (names : List String) : List Selector := names.map .child

theorem isTrailStep_members (names : List String) : ∀ s ∈ members names, IsTrailStep s := by
  intro s hs
  obtain ⟨n, _, rfl⟩ := List.mem_map.mp hs
  trivial

theorem isConcrete_members (names : List String) : ∀ s ∈ members names, IsConcrete s := by
  intro s hs
  obtain ⟨n, _, rfl⟩ := List.mem_map.mp hs
  exact ⟨trivial, rfl⟩

/-- The steps through an output tree. -/
def treeSteps (sels : List Selector) : Json.Location :=
  sels.filterMap Tree.stepOf?

theorem treeSteps_append (sels later : List Selector) :
    treeSteps (sels ++ later) = treeSteps sels ++ treeSteps later := List.filterMap_append

theorem mapM_ofSelector? (h : ∀ s ∈ sels, IsConcrete s) :
    sels.mapM Tree.stepOf? = some (treeSteps sels) := by
  induction sels with
  | nil => rfl
  | cons sel sels ih =>
      obtain ⟨segment, hs⟩ := Option.isSome_iff_exists.mp (h sel (by simp)).2
      have hrest := ih fun s hs => h s (by simp [hs])
      simp [treeSteps, hs, hrest]

/-- The path of a place in a tree leads there. -/
theorem segments_written (h : ∀ s ∈ sels, IsConcrete s) :
    Tree.segments (written sels) = .ok (treeSteps sels) := by
  have hp := (denotes_written fun s hs => (h s hs).1).parse_eq
  simp only [Tree.segments, hp, mapM_ofSelector? h]

theorem append_members_nil (sels : List Selector) : sels ++ members [] = sels := List.append_nil sels

theorem members_append (names : List String) (name : String) :
    members (names ++ [name]) = members names ++ [.child name] := List.map_append

/-! ## Longer paths -/

theorem childPath_written (h : ∀ s ∈ sels, s.IsStep) (name : String) :
    childPath (written sels) name = written (sels ++ [.child name]) := by
  rw [written_append h]
  simp [childPath, selectorsText, Selector.text]

theorem itemPath_written (h : ∀ s ∈ sels, s.IsStep) :
    itemPath (written sels) = written (sels ++ [.wildcard]) := by
  rw [written_append h]
  rfl

theorem elementPath_written (h : ∀ s ∈ sels, s.IsStep) (i : Nat) :
    elementPath (written sels) i = written (sels ++ [.index i]) := by
  rw [written_append h]
  simp [elementPath, selectorsText, Selector.text, String.append_assoc]

theorem rootPath_written : rootPath = written [] := by rfl

/-! ## Indices in place of wildcards -/

/-- The selectors with their wildcards replaced, in order, by indices. -/
def fill : List Selector → List Nat → List Selector
  | .wildcard :: sels, i :: indices => .index i :: fill sels indices
  | sel :: sels, indices => sel :: fill sels indices
  | [], _ => []

/-- The number of wildcards. -/
def depth (sels : List Selector) : Nat := sels.count .wildcard

theorem fill_nil (sels : List Selector) : fill sels [] = sels := by
  induction sels with
  | nil => rfl
  | cons sel sels ih => cases sel <;> simp [fill, ih]

theorem fill_append (h : depth outer = indices.length) (sels : List Selector) (more : List Nat) :
    fill (outer ++ sels) (indices ++ more) = fill outer indices ++ fill sels more := by
  induction outer generalizing indices with
  | nil =>
      have hi : indices = [] := List.length_eq_zero_iff.mp h.symm
      simp [hi, fill]
  | cons sel outer ih =>
      cases sel with
      | wildcard =>
          cases indices with
          | nil => simp [depth] at h
          | cons i indices =>
              have hd : depth outer = indices.length := by simpa [depth] using h
              simp [fill, ih hd]
      | _ =>
          have hd : depth outer = indices.length := by simpa [depth] using h
          simp [fill, ih hd]

theorem depth_members (names : List String) : depth (members names) = 0 := by
  simp [depth, members, List.count_eq_zero]

end Recast.Path
