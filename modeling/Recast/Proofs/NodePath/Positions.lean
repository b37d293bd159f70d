import Recast.Proofs.NodePath.Overflow
import Recast.Proofs.NodePath.Reading

/-!
# The positions of node paths

The positions of the node path of a path are the successors of its indices. They have 64 bits, so
that nothing follows the last index of all: a path that counts to it is given no node path.
-/

namespace Recast.NodePath

open Recast.Path (Selector)
open Markup (Node)

variable {d d' : Draft} {sel : Selector} {sels : List Selector} {p : NodePath} {path : Path}
  {isAbsolute : Bool} {source : String} {i n : Nat} {nodes : List Node} {base : List Step}

def Predicate.position? : Predicate → Option Nat
  | position n => some n
  | attr _ _ | child _ _ => none

def Step.positions (s : Step) : List Nat := s.predicates.filterMap Predicate.position?

/-- The positions that a node path counts to, in its order. -/
def positions (p : NodePath) : List Nat := p.steps.flatMap Step.positions

/-! ## Positions of a draft -/

def Draft.positions (d : Draft) : List Nat := d.steps.reverse.flatMap Step.positions

theorem Draft.push_positions (d : Draft) (test : Test) : (d.push test).positions = d.positions := by
  simp [Draft.positions, Draft.push, Step.positions]

theorem index?_of_testOf? {test : Test} (h : testOf? sel = some test) : sel.index? = none := by
  cases sel with
  | index i => cases h
  | _ => rfl

/-- An index adds the position that follows it, and nothing else adds any. -/
theorem Draft.Adds.positions_eq (h : d.Adds sel d') :
    d'.positions = d.positions ++ sel.index?.toList.map (· + 1) := by
  cases h with
  | descent => simp [Draft.positions, Selector.index?]
  | step h => simp [Draft.push_positions, index?_of_testOf? h]
  | position _ hsteps =>
      simp [Draft.positions, hsteps, Selector.index?, Step.positions, Predicate.position?]

theorem foldlM_add_positions (h : sels.foldlM Draft.add d = .ok d') :
    d'.positions = d.positions ++ (sels.filterMap Selector.index?).map (· + 1) := by
  induction sels generalizing d with
  | nil =>
      cases h
      simp
  | cons sel sels ih =>
      rw [List.foldlM_cons] at h
      obtain ⟨next, hadd, hrest⟩ := bind_eq_ok h
      rw [ih hrest, (Draft.add_eq_ok_iff.mp hadd).positions_eq]
      cases hindex : sel.index? <;> simp [hindex]

theorem Draft.finished_positions (d : Draft) :
    d.finished.flatMap Step.positions = d.positions := by
  unfold Draft.finished
  split
  · rename_i h
    simp [Draft.positions, List.isEmpty_iff.mp h, toSelf, Step.positions]
  · rfl

theorem ofPath_positions (h : ofPath path isAbsolute = .ok p) :
    p.positions = path.indices.map (· + 1) := by
  obtain ⟨origin, sels⟩ := path
  obtain ⟨d, hd, rfl⟩ := ofPath_eq_ok_iff.mp h
  have hstart : Draft.positions ⟨if isAbsolute then [toRoot] else [], false⟩ = [] := by
    cases isAbsolute <;> rfl
  show d.finished.flatMap Step.positions = _
  rw [Draft.finished_positions, foldlM_add_positions hd, hstart, List.nil_append]
  rfl

/-! ## Positions of what is read -/

theorem positions_of_parse (h : parse source = .ok p) (hn : n ∈ p.positions) :
    0 < n ∧ n < Nat.pow 2 64 := by
  obtain ⟨st, hst, hn⟩ := List.mem_flatMap.mp hn
  obtain ⟨predicate, hpredicate, hposition⟩ := List.mem_filterMap.mp hn
  have hlegible := (legible_of_parse h).2 st hst
  simp only [Step.isLegible, Bool.and_eq_true, List.all_eq_true] at hlegible
  have hp := hlegible.2 predicate hpredicate
  cases predicate with
  | position m =>
      cases hposition
      simpa [Predicate.isLegible] using hp
  | _ => cases hposition

theorem positions_of_ofPath (h : ofPath path isAbsolute = .ok p) (hn : n ∈ p.positions) :
    0 < n ∧ n < Nat.pow 2 64 := by
  obtain ⟨origin, sels⟩ := path
  obtain ⟨d, hd, rfl⟩ := ofPath_eq_ok_iff.mp h
  have hstart : ∀ n ∈ Draft.positions ⟨if isAbsolute then [toRoot] else [], false⟩,
      0 < n ∧ n < Nat.pow 2 64 := by
    cases isAbsolute <;> exact fun n hn => nomatch hn
  have hkeeps : ∀ n ∈ d.positions, 0 < n ∧ n < Nat.pow 2 64 := by
    refine foldlM_add_keeps (P := fun d => ∀ n ∈ d.positions, 0 < n ∧ n < Nat.pow 2 64)
      (fun d d' sel hall hadd n hn => ?_) hstart hd
    rw [hadd.positions_eq, List.mem_append] at hn
    rcases hn with hn | hn
    · exact hall n hn
    · cases hadd with
      | position _ _ hi =>
          obtain rfl : n = _ := by simpa [Selector.index?] using hn
          exact ⟨Nat.succ_pos _, hi⟩
      | descent => cases hn
      | step htest =>
          rw [index?_of_testOf? htest] at hn
          cases hn
  refine hkeeps n ?_
  rwa [← Draft.finished_positions]

theorem filter_position (hn : 0 < n) (nodes : List Node) :
    (Predicate.position n).filter nodes = nodes[n - 1]?.toList := by
  rw [Predicate.filter, if_neg (by simpa using Nat.ne_of_gt hn)]

/-- The positions of the node path of a path are the successors of its indices. A path is broken off
exactly where its selectors come to the last index of 64 bits behind a step that could count to it.
All positions, also those of a node path that is read, are at least 1, so that a filter can take 1
off them. -/
theorem positions_follow_indices (p : NodePath) :
    (∀ (source : String) (path : Path) (isAbsolute : Bool), Path.parse source = .ok path →
      (ofPath path isAbsolute = .ok p → p.positions = path.indices.map (· + 1)) ∧
      (ofPath path isAbsolute = .error .overflow ↔
        ∃ front back, path.selectors = front ++ .index (Nat.pow 2 64 - 1) :: back ∧
          (∃ q, ofPath ⟨path.root, front⟩ isAbsolute = .ok q) ∧
          (isAbsolute = true ∨ front ≠ []) ∧ front.getLast? ≠ some .descent)) ∧
    (((∃ source, parse source = .ok p) ∨ ∃ source path isAbsolute,
        Path.parse source = .ok path ∧ ofPath path isAbsolute = .ok p) →
      ∀ n ∈ p.positions, 0 < n ∧ n < Nat.pow 2 64 ∧
        ∀ nodes, (Predicate.position n).filter nodes = nodes[n - 1]?.toList) := by
  refine ⟨fun source path isAbsolute hpath => ⟨ofPath_positions, ?_⟩, fun hp n hn => ?_⟩
  · rw [ofPath_eq_overflow_iff]
    constructor
    · rintro ⟨front, i, back, hsels, hi, hfront⟩
      have hlt : i < Nat.pow 2 64 := by
        refine Path.indices_lt hpath (List.mem_filterMap.mpr ⟨.index i, ?_, rfl⟩)
        simp [hsels]
      obtain rfl : i = Nat.pow 2 64 - 1 := by omega
      exact ⟨front, back, hsels, hfront⟩
    · rintro ⟨front, back, hsels, hfront⟩
      exact ⟨front, _, back, hsels, by decide, hfront⟩
  · have hbounds : 0 < n ∧ n < Nat.pow 2 64 := by
      rcases hp with ⟨source, h⟩ | ⟨_, path, isAbsolute, _, h⟩
      · exact positions_of_parse h hn
      · exact positions_of_ofPath h hn
    exact ⟨hbounds.1, hbounds.2, filter_position hbounds.1⟩

theorem positions_follow_indices_words :
    Path.parse "$.a[18446744073709551614][0]" =
        .ok ⟨.document, [.child "a", .index 18446744073709551614, .index 0]⟩ ∧
      ∃ p, ofPath ⟨.document, [.child "a", .index 18446744073709551614, .index 0]⟩ true = .ok p ∧
        p.source = "/*/a[18446744073709551615][1]" ∧ p.positions = [18446744073709551615, 1] ∧
        (Predicate.position 1).filter [.text "x", .text "y"] = [.text "x"] := by
  have hsource : Path.parse "$.a[18446744073709551614][0]" =
      .ok ⟨.document, [.child "a", .index 18446744073709551614, .index 0]⟩ := by rfl
  have hp : ofPath ⟨.document, [.child "a", .index 18446744073709551614, .index 0]⟩ true =
      .ok ⟨true, [toRoot, ⟨.child, .name "a", [.position 18446744073709551615, .position 1]⟩],
        "/*/a[18446744073709551615][1]"⟩ := by decide
  obtain ⟨hpath, hall⟩ := positions_follow_indices
    ⟨true, [toRoot, ⟨.child, .name "a", [.position 18446744073709551615, .position 1]⟩],
      "/*/a[18446744073709551615][1]"⟩
  have hpositions := (hpath _ _ true hsource).1 hp
  have hfilter := hall (Or.inr ⟨_, _, true, hsource, hp⟩) 1 (by rw [hpositions]; decide)
  refine ⟨hsource, _, hp, rfl, hpositions, ?_⟩
  exact hfilter.2.2 [.text "x", .text "y"]

/-- A path that counts to the last index of 64 bits is broken off. -/
theorem position_of_last_index :
    Path.parse "$.a[18446744073709551615]" =
        .ok ⟨.document, [.child "a", .index 18446744073709551615]⟩ ∧
      ofPath ⟨.document, [.child "a", .index 18446744073709551615]⟩ true = .error .overflow ∧
      ofPath ⟨.document, [.child "a", .index 18446744073709551615]⟩ false = .error .overflow :=
  ⟨by rfl, by decide, by decide⟩

end Recast.NodePath
