import Recast.Proofs.NodePath.Compose
import Recast.Proofs.Path.Writing

/-!
# Paths that count too far

No position follows the last index of all. A path is broken off exactly where its selectors come to
that index behind a step that could count to it.
-/

namespace Recast.Path

variable {path : Path} {source : String} {i : Nat}

def Selector.index? : Selector → Option Nat
  | index i => some i
  | child _ | wildcard | fromEnd _ | descent => none

/-- The indices of a path, in its order, but for those counted from the end. -/
def indices (p : Path) : List Nat := p.selectors.filterMap Selector.index?

theorem indices_lt (h : parse source = .ok path) (hi : i ∈ path.indices) : i < Nat.pow 2 64 := by
  obtain ⟨sel, hsel, hindex⟩ := List.mem_filterMap.mp hi
  have hwritable := (parse_eq_ok_iff.mp h).writable
  cases sel with
  | index j =>
      cases hindex
      rcases hwritable.of_mem hsel with hstep | hdescent
      · exact hstep
      · cases hdescent
  | _ => cases hindex

end Recast.Path

namespace Recast.NodePath

open Recast.Path (Selector)

variable {d : Draft} {sel : Selector} {sels : List Selector} {path : Path} {isAbsolute : Bool}
  {i : Nat} {base : List Step}

theorem positionAfter_eq_error_iff {e : Unmapped} :
    positionAfter i = .error e ↔ Nat.pow 2 64 ≤ i + 1 ∧ e = .overflow := by
  unfold positionAfter
  split
  · rename_i h
    simp [Nat.not_le.mpr h]
  · rename_i h
    simp [Nat.not_lt.mp h, eq_comm]

/-- A selector breaks a draft off where its last step would count to such an index. -/
theorem Draft.add_eq_overflow_iff : d.add sel = .error .overflow ↔
    ∃ i, sel = .index i ∧ Nat.pow 2 64 ≤ i + 1 ∧ d.descends = false ∧ d.steps ≠ [] := by
  constructor
  · intro h
    unfold Draft.add at h
    split at h
    · cases h
    · split at h <;> cases h
    · cases h
    · rename_i i
      split at h
      · rename_i last steps hdescends hsteps
        rcases bind_eq_error h with h | ⟨n, _, h⟩
        · exact ⟨i, rfl, (positionAfter_eq_error_iff.mp h).1, hdescends, by simp [hsteps]⟩
        · cases h
      · cases h
    · cases h
  · rintro ⟨i, rfl, hi, hdescends, hne⟩
    obtain ⟨last, steps, hsteps⟩ := List.exists_cons_of_ne_nil hne
    have hnone := positionAfter_eq_error_iff.mpr ⟨hi, rfl⟩
    simp [Draft.add, hdescends, hsteps, hnone, bind, Except.bind]

/-- Behind selectors that are read, a step can count if there is one and no descent comes next. -/
theorem foldlM_add_counts_iff (h : sels.foldlM Draft.add ⟨base, false⟩ = .ok d) :
    d.descends = false ∧ d.steps ≠ [] ↔
      (base ≠ [] ∨ sels ≠ []) ∧ sels.getLast? ≠ some .descent := by
  rcases List.eq_nil_or_concat sels with rfl | ⟨init, sel, rfl⟩
  · cases h
    simp
  · rw [List.concat_eq_append] at h ⊢
    rw [List.foldlM_append] at h
    obtain ⟨before, _, h⟩ := bind_eq_ok h
    obtain ⟨after, hadd, h⟩ := bind_eq_ok h
    cases h
    cases Draft.add_eq_ok_iff.mp hadd with
    | descent => simp
    | step htest =>
        have hsel : sel ≠ .descent := by
          rintro rfl
          cases htest
        simp [hsel, Draft.push]
    | position hdescends => simp [hdescends]

theorem ofPath_eq_overflow_iff : ofPath path isAbsolute = .error .overflow ↔
    ∃ front i back, path.selectors = front ++ .index i :: back ∧ Nat.pow 2 64 ≤ i + 1 ∧
      (∃ q, ofPath ⟨path.root, front⟩ isAbsolute = .ok q) ∧
      (isAbsolute = true ∨ front ≠ []) ∧ front.getLast? ≠ some .descent := by
  obtain ⟨origin, sels⟩ := path
  have hfold : ofPath ⟨origin, sels⟩ isAbsolute = .error .overflow ↔
      sels.foldlM Draft.add ⟨if isAbsolute then [toRoot] else [], false⟩ = .error .overflow := by
    refine ⟨fun h => ?_, fun h => congrArg (· >>= _) h⟩
    rcases bind_eq_error h with h | ⟨d, _, h⟩
    · exact h
    · cases h
  have hbase : (if isAbsolute then [toRoot] else []) ≠ [] ↔ isAbsolute = true := by
    cases isAbsolute <;> simp
  rw [hfold, foldlM_eq_error_iff]
  constructor
  · rintro ⟨front, sel, back, d, hsels, hd, hadd⟩
    obtain ⟨i, rfl, hi, hcounts⟩ := Draft.add_eq_overflow_iff.mp hadd
    have hfront := (foldlM_add_counts_iff hd).mp hcounts
    rw [hbase] at hfront
    exact ⟨front, i, back, hsels, hi, ⟨_, ofPath_eq_ok_iff.mpr ⟨d, hd, rfl⟩⟩, hfront⟩
  · rintro ⟨front, i, back, hsels, hi, ⟨q, hq⟩, hfront⟩
    obtain ⟨d, hd, _⟩ := ofPath_eq_ok_iff.mp hq
    rw [← hbase] at hfront
    exact ⟨front, .index i, back, d, hsels, hd,
      Draft.add_eq_overflow_iff.mpr ⟨i, rfl, hi, (foldlM_add_counts_iff hd).mpr hfront⟩⟩

/-- Only a path that holds such an index is broken off. -/
theorem exists_index_of_overflow (h : ofPath path isAbsolute = .error .overflow) :
    ∃ i ∈ path.indices, Nat.pow 2 64 ≤ i + 1 := by
  obtain ⟨front, i, back, hsels, hi, _⟩ := ofPath_eq_overflow_iff.mp h
  exact ⟨i, List.mem_filterMap.mpr ⟨.index i, by simp [hsels], rfl⟩, hi⟩

end Recast.NodePath
