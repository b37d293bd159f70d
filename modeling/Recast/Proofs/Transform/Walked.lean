import Recast.Proofs.Transform.Lookup
import Recast.Transform.Run

/-!
# Walks and visits

A walk resolves, writes and moves values at the places that are visited and nowhere else. So a run
fails as one of its visits does, and where it comes to an end all visits were walked.
-/

namespace Recast.Transform

open Input (Document Finding)
open Json (Value)
open Recast.Path
open Schema (Declared Instance)

variable {root i : Instance} {ruleSet : String} {document : Document} {p : Place}
  {indices : List Nat} {ps : List Instance} {tree tree' output : Value}

/-! ## What is visited -/

theorem Visits.everywhere {P : Instance → Prop} (h : Visits root ruleSet document i p indices)
    (hroot : root.Everywhere P) : i.Everywhere P := by
  induction h with
  | root => exact hroot
  | property _ hi ih => exact ih.property hi
  | element _ _ _ ih => exact ih.items

theorem Visits.mem_all (h : Visits root ruleSet document i p indices) : i ∈ root.all :=
  (h.everywhere (P := (· ∈ root.all)) fun _ hj => hj).self

theorem Visits.ruleSet_eq (h : Visits root ruleSet document i p indices) :
    p.ruleSet = ruleSet := by
  induction h with
  | root => rfl
  | property _ _ ih => exact ih
  | element _ _ _ ih => exact ih

theorem isValue_of_mem_seeds {v : Value} {seed : Finding} (h : seed ∈ (Finding.json v).seeds) :
    ∃ w, seed = .json w := by
  cases v with
  | array items =>
      obtain ⟨w, _, rfl⟩ := List.mem_map.mp h
      exact ⟨w, rfl⟩
  | _ => exact ⟨_, List.mem_singleton.mp h⟩

/-- A JSON document holds no markup, and neither does what is found in it. -/
theorem Visits.not_hasMarkup {v : Value} (h : Visits root ruleSet (.json v) i p indices) :
    ¬ p.HasMarkup := by
  induction h with
  | root =>
      rintro (⟨_, h⟩ | ⟨s, hs, _⟩)
      · cases h
      · cases hs
  | property _ _ ih => exact ih
  | element _ hbase hseed ih =>
      obtain ⟨w, rfl⟩ := resolve_findsValues ih _ _ hbase
      obtain ⟨w', rfl⟩ := isValue_of_mem_seeds (List.mem_of_getElem? hseed)
      rintro (hroot | ⟨s, hs, ns, hnodes⟩)
      · exact ih (Or.inl hroot)
      · rcases List.mem_cons.mp hs with rfl | hs
        · cases hnodes
        · exact ih (Or.inr ⟨s, hs, ns, hnodes⟩)

/-! ## Walks come to visits only -/

/-- At the place the instance cannot be resolved, its value cannot be written, or its value cannot be
moved out of the tree of an element. -/
inductive FailsAt (p : Place) (i : Instance) (e : Error) : Prop where
  | resolve (h : resolve p i = .error e)
  | write {value : Option Value} {tree : Value}
      (h : writeAt (p.concrete i.path) value tree = .error e)
  | take {tree : Value} (h : takeAt (p.concrete i.path) tree = .error e)

/-- One of the visits fails so. -/
def FailsAtVisit (root : Instance) (ruleSet : String) (document : Document) (e : Error) : Prop :=
  ∃ i p indices, Visits root ruleSet document i p indices ∧ FailsAt p i e

theorem walkEach_fails {P : Error → Prop} (h : ∀ i ∈ ps, ∀ tree, FailsOnly P (walk i p tree))
    (tree : Value) : FailsOnly P (walkEach ps p tree) := by
  induction ps generalizing tree with
  | nil =>
      unfold walkEach
      exact .ok tree
  | cons i ps ih =>
      unfold walkEach
      exact (h i (by simp) tree).bind fun tree' _ => ih (fun j hj => h j (by simp [hj])) tree'

/-- A walk from a visit fails as a visit does. -/
theorem Visits.walk_fails (hroot : root.Addressed [])
    (h : Visits root ruleSet document i p indices) (tree : Value) :
    FailsOnly (FailsAtVisit root ruleSet document) (walk i p tree) := by
  have hresolve : ∀ {j q ks}, Visits root ruleSet document j q ks →
      FailsOnly (FailsAtVisit root ruleSet document) (resolve q j) :=
    fun hv e he => ⟨_, _, _, hv, .resolve he⟩
  have hwrite : ∀ {j q ks}, Visits root ruleSet document j q ks → ∀ value tree,
      FailsOnly (FailsAtVisit root ruleSet document) (writeAt (q.concrete j.path) value tree) :=
    fun hv value tree e he => ⟨_, _, _, hv, .write he⟩
  induction i using Instance.induction generalizing p indices tree with
  | scalar d k =>
      unfold walk
      exact (hresolve h).bind fun found _ => hwrite h _ tree
  | object d ps ih =>
      unfold walk
      refine (hresolve h).bind fun found _ => (hwrite h _ tree).bind fun tree' _ => ?_
      exact walkEach_fails (fun i hi => ih i hi (.property h hi)) tree'
  | array d items ih =>
      unfold walk
      refine (hresolve h).bind fun found hfound => ?_
      cases found with
      | none => exact .ok tree
      | some base =>
          refine (collect_fails (by decide) fun k seed hseed => ?_).bind fun vs _ =>
            hwrite h (some (.array vs)) tree
          have hv := Visits.element h hfound hseed
          rw [Nat.zero_add]
          refine (ih hv Tree.empty).bind fun tree' _ e he =>
            ⟨_, _, _, hv, @FailsAt.take _ _ _ tree' ?_⟩
          obtain ⟨outer, names, hp, hi⟩ := h.within hroot
          cases hi with
          | array hd below =>
              rwa [Instance.path, hp.enter_concrete hd below.at seed (Nat.mod_lt k (by decide))]

theorem run_fails (hroot : root.Addressed []) :
    FailsOnly (FailsAtVisit root ruleSet document) (run root ruleSet document) :=
  (Visits.root.walk_fails hroot Tree.empty).bind fun _ _ => .ok _

/-! ## Walks come to all visits -/

theorem exists_of_walkEach_eq_ok (h : walkEach ps p tree = .ok tree') (hi : i ∈ ps) :
    ∃ before after, walk i p before = .ok after := by
  induction ps generalizing tree with
  | nil => cases hi
  | cons j ps ih =>
      unfold walkEach at h
      obtain ⟨next, hnext, h⟩ := bind_eq_ok h
      rcases List.mem_cons.mp hi with rfl | hi
      · exact ⟨tree, next, hnext⟩
      · exact ih h hi

/-- Where a run comes to an end, every visit was walked. -/
theorem Visits.exists_walk (hrun : run root ruleSet document = .ok output)
    (h : Visits root ruleSet document i p indices) :
    ∃ before after, walk i p before = .ok after := by
  induction h with
  | root =>
      obtain ⟨tree, htree, _⟩ := bind_eq_ok hrun
      exact ⟨Tree.empty, tree, htree⟩
  | property _ hi ih =>
      obtain ⟨before, after, hwalk⟩ := ih
      unfold walk at hwalk
      obtain ⟨found, _, hwalk⟩ := bind_eq_ok hwalk
      obtain ⟨tree, _, hwalk⟩ := bind_eq_ok hwalk
      exact exists_of_walkEach_eq_ok hwalk hi
  | element _ hbase hseed ih =>
      obtain ⟨before, after, hwalk⟩ := ih
      unfold walk at hwalk
      obtain ⟨found, hfound, hwalk⟩ := bind_eq_ok hwalk
      cases hbase.symm.trans hfound
      obtain ⟨vs, hvs, _⟩ := bind_eq_ok hwalk
      obtain ⟨v, hv⟩ := exists_of_collect_eq_ok (by decide) hvs hseed
      rw [Nat.zero_add] at hv
      obtain ⟨tree, htree, _⟩ := bind_eq_ok hv
      exact ⟨Tree.empty, tree, htree⟩

/-- So every instance that is visited was resolved there. -/
theorem Visits.exists_resolve (hrun : run root ruleSet document = .ok output)
    (h : Visits root ruleSet document i p indices) : ∃ found, resolve p i = .ok found := by
  obtain ⟨before, after, hwalk⟩ := h.exists_walk hrun
  cases i <;> unfold walk at hwalk <;> obtain ⟨found, hfound, _⟩ := bind_eq_ok hwalk <;>
    exact ⟨found, hfound⟩

end Recast.Transform
